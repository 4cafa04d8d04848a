import IolHat.ConfigurationManager.Machine
import IolHat.SystemManagement.Jobs
import IolHat.Lib.Run

/-!
# Agreement on the port configuration

The Configuration Manager confirms a configuration and then asks System Management for it, by a job
in the mailbox that both layers share. Until the job is served the two may differ. This module is
about the time after: with no such job pending, is System Management in the mode that has been
confirmed?

* `PortSys` is the two layers with their mailbox. Data link layer, application layer and Data
  Storage are its environment: their jobs arrive at any time and with any content.
* `Agree` is what should hold of a settled port (`Settled`).
* System Management drops a configuration in ten of its states, stores one in `checkSerNum` that
  its table has no row for, and starts a port that has been set inactive. `Orderly` excludes these
  three; with it the two layers agree in every reached state, and each step that is not orderly
  and leaves the port settled leaves it in disagreement (`PortSys.agreement_of_reaches`).
-/

namespace IolHat

/-! ### What the Configuration Manager asks for -/

/-- The configurations in a list of calls. -/
def CmCall.paramlist : CmCall → Option SmpParameterlist
  | .smSetPortConfigReq p => some p
  | _ => none

/-- The call confirms a configuration. -/
def CmCall.confirms : CmCall → Bool
  | .voidblockCnf _ => true
  | _ => false

namespace Cm

/-- The configurations requested by the calls made so far. -/
def requests (cm : Cm) : List SmpParameterlist := cm.calls.filterMap CmCall.paramlist

/-- Some call has confirmed a configuration. -/
def confirmed (cm : Cm) : Bool := cm.calls.any CmCall.confirms

end Cm

/-- A parameter list as the Configuration Manager makes them: without a serial number, and with
nothing but the mode when the port is to be inactive. -/
structure SmpParameterlist.Issued (p : SmpParameterlist) : Prop where
  serialnumber : p.serialnumber = List.replicate 16 0
  inactive : p.mode = .inactive → p = { mode := .inactive }

namespace Cm

/-- Nothing has been confirmed or requested, and the configuration is the same. -/
structure Quiet (cm cm' : Cm) : Prop where
  requests : cm'.requests = cm.requests
  confirmed : cm'.confirmed = cm.confirmed
  cfgList : cm'.cfgList = cm.cfgList

theorem Quiet.refl (cm : Cm) : Quiet cm cm := ⟨rfl, rfl, rfl⟩

theorem Quiet.trans {cm cm' cm'' : Cm} (h : Quiet cm cm') (h' : Quiet cm' cm'') : Quiet cm cm'' :=
  ⟨h'.requests.trans h.requests, h'.confirmed.trans h.confirmed, h'.cfgList.trans h.cfgList⟩

/-- Calls that neither confirm nor request anything. -/
theorem Quiet.of_calls {cm cm' : Cm} (cs : List CmCall) (hcalls : cm'.calls = cm.calls ++ cs)
    (hcfg : cm'.cfgList = cm.cfgList) (hp : cs.filterMap CmCall.paramlist = [])
    (hc : cs.any CmCall.confirms = false) : Quiet cm cm' := by
  refine ⟨?_, ?_, hcfg⟩
  · simp [Cm.requests, hcalls, hp]
  · simp [Cm.confirmed, hcalls, hc]

/-- The events that do not bring a configuration. -/
def quietEvent : CmEvent → Bool
  | .smComready | .smFault | .dsReady | .dsFault | .smOperate | .smComlost => true
  | _ => false

/-- Their rows have actions that do not touch the configuration. -/
private theorem quiet_rows (s : CmState) : ∀ t ∈ transitions s, quietEvent t.event = true →
    t.action ∈ [Action.comlost, .comlostIgnore, .startDs, .dsReady, .dsReadyIgnore, .smOperate,
      .portFault] ∧ t.next ≠ .portDeactivated := by
  cases s <;> decide

private theorem quiet_comlost (cm : Cm) {e : CmEvent} (he : e ≠ .cfgChange) :
    Quiet cm (cm.comlost e).1 ∧ (cm.comlost e).2 = .none := by
  simp only [Cm.comlost, checkMode, if_neg he, and_true]
  exact .of_calls [.portEvent .noDev] rfl rfl rfl rfl

private theorem quiet_portFault (cm : Cm) (e : CmEvent) : Quiet cm (cm.portFault e).1 ∧
    ((cm.portFault e).2 = .none ∨ (cm.portFault e).2 = .smComlost) := by
  cases e with
  | dsFault =>
    simp only [Cm.portFault]
    split_ifs
    · exact ⟨Quiet.refl cm, Or.inr rfl⟩
    · exact ⟨.of_calls [.portEvent (faultCode cm.dsFault)] rfl rfl rfl rfl, Or.inl rfl⟩
  | smFault => exact ⟨.of_calls [.portEvent .badDid] rfl rfl rfl rfl, Or.inl rfl⟩
  | _ => exact ⟨.of_calls [.assertion] rfl rfl rfl rfl, Or.inl rfl⟩

/-- One round with such an event. -/
private theorem quiet_round {cm : Cm} {e : CmEvent}
    {t : Fsm.Transition CmState CmEvent Action} (hrow : fsm.row cm e = some t)
    (he : quietEvent e = true) :
    Quiet cm (fsm.round t cm e).1 ∧
      ((fsm.round t cm e).2 = .none ∨ (fsm.round t cm e).2 = .smComlost) := by
  obtain ⟨hmem, rfl⟩ := Fsm.Machine.mem_of_row hrow
  have hne : t.event ≠ .cfgChange := by
    intro h
    simp [h, quietEvent] at he
  have haction := (quiet_rows _ t hmem he).1
  have hreq : Quiet cm (cm.enter t.next) := ⟨rfl, rfl, rfl⟩
  simp only [List.mem_cons, List.not_mem_nil, or_false] at haction
  simp only [Fsm.Machine.round, fsm]
  rcases haction with ha | ha | ha | ha | ha | ha | ha <;> rw [ha]
  · obtain ⟨h, hnone⟩ := quiet_comlost (cm.enter t.next) hne
    exact ⟨hreq.trans h, Or.inl hnone⟩
  · exact ⟨hreq, Or.inl rfl⟩
  · exact ⟨.of_calls [.dsStartup] rfl rfl rfl rfl, Or.inl rfl⟩
  · exact ⟨.of_calls [.smOperate] rfl rfl rfl rfl, Or.inl rfl⟩
  · exact ⟨hreq, Or.inl rfl⟩
  · exact ⟨.of_calls [.odStart, .pdStart, .portEvent .portStatusChange] rfl rfl rfl rfl,
      Or.inl rfl⟩
  · obtain ⟨h, hnext⟩ := quiet_portFault (cm.enter t.next) t.event
    exact ⟨hreq.trans h, hnext⟩

/-- Only a new configuration has consequences for the configuration. -/
theorem quiet_event (cm : Cm) {e : CmEvent} (he : quietEvent e = true) :
    Quiet cm (cm.event e) := by
  refine Fsm.Machine.drive_rule (P := fun c e => Quiet cm c ∧ quietEvent e = true)
    (fun _ _ _ h => h.1) ?_ ?_ ⟨Quiet.refl cm, he⟩
  · intro c e t hrow h _
    exact h.1.trans (quiet_round hrow h.2).1
  · intro c e t hrow h hidle
    obtain ⟨hq, hnext⟩ := quiet_round hrow h.2
    refine ⟨h.1.trans hq, ?_⟩
    rw [hnext.resolve_left hidle]
    rfl

/-- No action changes the state of the machine. -/
theorem perform_state (a : Action) (cm : Cm) (e : CmEvent) :
    (perform a cm e).1.state = cm.state := by
  have hcheck (cm : Cm) : (cm.checkMode e).1.state = cm.state := by
    simp only [checkMode]
    split_ifs <;> rfl
  cases a
  case checkMode => exact hcheck cm
  case comlost => exact hcheck _
  case portFault =>
    cases e
    case dsFault =>
      simp only [perform, portFault]
      split_ifs <;> rfl
    all_goals rfl
  all_goals rfl

/-- The port is not deactivated by such an event. -/
theorem quiet_event_state (cm : Cm) {e : CmEvent} (he : quietEvent e = true)
    (h : (cm.event e).state = .portDeactivated) : cm.state = .portDeactivated := by
  by_contra hs
  refine absurd h ?_
  have hround {c : Cm} {e : CmEvent} {t : Fsm.Transition CmState CmEvent Action}
      (hrow : fsm.row c e = some t) (he : quietEvent e = true) :
      (fsm.round t c e).1.state ≠ .portDeactivated := by
    obtain ⟨hmem, rfl⟩ := Fsm.Machine.mem_of_row hrow
    have hstate : (fsm.round t c t.event).1.state = t.next := perform_state _ _ _
    rw [hstate]
    exact (quiet_rows _ t hmem he).2
  refine Fsm.Machine.drive_rule (M := fsm) (Q := fun c => c.state ≠ .portDeactivated)
    (P := fun c e => c.state ≠ .portDeactivated ∧ quietEvent e = true) (fun _ _ _ hc => hc.1)
    (fun c e t hrow hc _ => hround hrow hc.2) (fun c e t hrow hc hidle => ?_) ⟨hs, he⟩
  refine ⟨hround hrow hc.2, ?_⟩
  rw [(quiet_round hrow hc.2).2.resolve_left hidle]
  rfl

/-- What a job of the layer does to the configuration of the port: nothing, or it requests a
parameter list with the mode of the configuration that is then in force. Only with a request has a
configuration been confirmed. -/
inductive Outcome (cm cm' : Cm) : Prop
  | quiet (h : Quiet cm cm')
  | requested (p : SmpParameterlist) (hreq : cm'.requests = cm.requests ++ [p])
      (hmode : p.mode = cm'.cfgList.list.portmode.targetMode) (hp : p.Issued)

theorem Outcome.trans {cm cm' cm'' : Cm} (h : Quiet cm cm') (h' : Outcome cm' cm'') :
    Outcome cm cm'' := by
  cases h' with
  | quiet hq => exact .quiet (h.trans hq)
  | requested p hreq hmode hp => exact .requested p (h.requests ▸ hreq) hmode hp

/-- The parameter list of a configuration that is not inactive. -/
theorem issued_parameterlist {cfg : AcceptedConfig}
    (h : cfg.list.portmode.targetMode ≠ .inactive) : cfg.parameterlist.Issued :=
  ⟨rfl, fun hmode => absurd hmode h⟩

/-- The event of a configuration tells its port mode. -/
theorem event_targetMode {cfg : PortConfigList} {e : CmEvent} (h : cfg.event = e)
    (he : e = .iolManual ∨ e = .iolAutostart ∨ e = .diCq ∨ e = .doCq) :
    cfg.portmode.targetMode ≠ .inactive := by
  subst h
  rw [PortConfigList.event] at he
  split_ifs at he
  · simp at he
  · cases hm : cfg.portmode <;> simp [hm, PortMode.event, PortMode.targetMode] at he ⊢

theorem requests_callAll (cm : Cm) (cs : List CmCall) :
    (cm.callAll cs).requests = cm.requests ++ cs.filterMap CmCall.paramlist := by
  simp [Cm.requests]

theorem requests_startup (cm : Cm) (e : CmEvent) :
    (cm.startup e).requests = cm.requests ++ [cm.cfgList.parameterlist] := by
  rw [startup, requests_callAll]
  split_ifs <;> rfl

theorem requests_dido (cm : Cm) (e : CmEvent) :
    (cm.dido e).requests = cm.requests ++ [cm.cfgList.parameterlist] :=
  requests_callAll _ _

theorem requests_deactivate (cm : Cm) (e : CmEvent) : (cm.deactivate e).requests =
    cm.requests ++ [{ mode := cm.cfgList.list.portmode.targetMode }] := by
  rw [deactivate, requests_callAll]
  split_ifs <;> rfl

/-- In `CheckPortMode`, each event of a configuration requests the mode of the configuration in
force: all its parameters, or the mode alone. -/
private theorem event_mode (cm : Cm) (hs : cm.state = .checkPortMode) {e : CmEvent}
    (he : e ∈ [CmEvent.iolManual, .iolAutostart, .diCq, .doCq, .deactivated, .unknown]) :
    (cm.event e).cfgList = cm.cfgList ∧
      ((cm.event e).requests = cm.requests ++ [cm.cfgList.parameterlist] ∧
          (e = .iolManual ∨ e = .iolAutostart ∨ e = .diCq ∨ e = .doCq) ∨
        (cm.event e).requests =
          cm.requests ++ [{ mode := cm.cfgList.list.portmode.targetMode }]) := by
  have hrow : ∀ t, Fsm.lookup (transitions .checkPortMode) e = some t → fsm.row cm e = some t :=
    fun t ht => Fsm.Machine.row_of_state hs ht
  have hdrive : ∀ t cm', Fsm.lookup (transitions .checkPortMode) e = some t →
      perform t.action (cm.enter t.next) e = (cm', .none) → cm.event e = cm' :=
    fun t cm' ht hp => Fsm.Machine.drive_of_row_idle (hrow t ht) hp
  simp only [List.mem_cons, List.not_mem_nil, or_false] at he
  rcases he with rfl | rfl | rfl | rfl | rfl | rfl
  · rw [hdrive _ _ rfl rfl]
    exact ⟨rfl, Or.inl ⟨requests_startup _ _, Or.inl rfl⟩⟩
  · rw [hdrive _ _ rfl rfl]
    exact ⟨rfl, Or.inl ⟨requests_startup _ _, Or.inr (Or.inl rfl)⟩⟩
  · rw [hdrive _ _ rfl rfl]
    exact ⟨rfl, Or.inl ⟨requests_dido _ _, Or.inr (Or.inr (Or.inl rfl))⟩⟩
  · rw [hdrive _ _ rfl rfl]
    exact ⟨rfl, Or.inl ⟨requests_dido _ _, Or.inr (Or.inr (Or.inr rfl))⟩⟩
  · rw [hdrive _ _ rfl rfl]
    exact ⟨rfl, Or.inr (requests_deactivate _ _)⟩
  · rw [hdrive _ _ rfl rfl]
    exact ⟨rfl, Or.inr (requests_deactivate _ _)⟩

theorem PortConfigList.event_mem (cfg : PortConfigList) : cfg.event ∈
    [CmEvent.iolManual, .iolAutostart, .diCq, .doCq, .deactivated, .unknown] := by
  rw [PortConfigList.event]
  split_ifs
  · simp
  · cases cfg.portmode <;> simp [PortMode.event]

/-- The state in which `DS_ParamManager` has a new configuration ignored. -/
theorem event_cfgChange_ignored {cm : Cm} (hs : cm.state = .dsParamManager) :
    cm.event .cfgChange = cm.enter .dsParamManager :=
  Fsm.Machine.drive_of_row_idle (Fsm.Machine.row_of_state hs rfl) rfl

/-- Every other state checks it, and drives the event of its mode. -/
theorem event_cfgChange {cm : Cm} (hs : cm.state ≠ .dsParamManager) :
    cm.event .cfgChange = ((cm.enter .checkPortMode).checkMode .cfgChange).1.event
      cm.smiReq.configlist.event := by
  have hrow : fsm.row cm .cfgChange = some ⟨.cfgChange, .checkPortMode, .checkMode⟩ := by
    cases h : cm.state with
    | dsParamManager => exact absurd h hs
    | _ => exact Fsm.Machine.row_of_state h rfl
  refine Fsm.Machine.drive_of_row_next hrow rfl ?_
  have hmem := PortConfigList.event_mem cm.smiReq.configlist
  intro h
  rw [show cm.smiReq.configlist.event = .none from h] at hmem
  exact absurd hmem (by decide)

/-- A parameter list with nothing but a mode. -/
theorem issued_mode (mode : SmTargetMode) : ({ mode := mode } : SmpParameterlist).Issued := by
  refine ⟨rfl, ?_⟩
  rintro rfl
  rfl

/-- The event of a configuration that has been checked. -/
private theorem outcome_checked {cm cm' : Cm} (hreq : cm'.requests = cm.requests)
    (hs : cm'.state = .checkPortMode) {cfg : PortConfigList}
    (hcfg : cfg.event = .unknown ∨ cm'.cfgList.list = cfg) :
    Outcome cm (cm'.event cfg.event) := by
  obtain ⟨hlist, ⟨hreq', hevent⟩ | hreq'⟩ := event_mode cm' hs (PortConfigList.event_mem cfg)
  · have hcfg' : cm'.cfgList.list = cfg := by
      refine hcfg.resolve_left fun h => ?_
      simp [h] at hevent
    refine .requested cm'.cfgList.parameterlist (hreq'.trans (by rw [hreq])) (by rw [hlist]; rfl)
      (issued_parameterlist ?_)
    rw [hcfg']
    exact event_targetMode rfl hevent
  · exact .requested _ (hreq'.trans (by rw [hreq])) (by rw [hlist]) (issued_mode _)

/-- A new configuration: ignored, or its mode is requested; if it is refused, the mode of the
configuration in force is. -/
theorem outcome_cfgChange (cm : Cm) : Outcome cm (cm.event .cfgChange) := by
  by_cases hs : cm.state = .dsParamManager
  · rw [event_cfgChange_ignored hs]
    exact .quiet ⟨rfl, rfl, rfl⟩
  rw [event_cfgChange hs]
  simp only [checkMode, if_true, enter_smiReq]
  split_ifs with hcfg
  · refine outcome_checked ?_ rfl (Or.inl hcfg)
    rw [requests_callAll]
    simp [CmCall.paramlist, Cm.requests]
  · refine outcome_checked ?_ rfl (Or.inr rfl)
    rw [requests_callAll]
    simp [CmCall.paramlist, Cm.requests]

/-- A request that is answered or refused changes nothing. -/
private theorem outcome_serve {cm : Cm} {r : CmRequest} {check : Option SmiErrorType}
    {f : Cm → Cm} (hf : Outcome cm (f cm)) : Outcome cm (cm.serve r check f) := by
  cases check with
  | none => exact hf
  | some error =>
    simp only [serve]
    split_ifs
    · exact .quiet (Quiet.refl cm)
    · exact .quiet (.of_calls [.joberrorInd r.exp r.ref error] rfl rfl rfl rfl)

private theorem outcome_cnf (cm : Cm) (ref : ArgBlockId) (len : ℕ) (block : CmBlock) :
    Outcome cm (cm.call (.cnf ref len block)) :=
  .quiet (.of_calls [.cnf ref len block] rfl rfl rfl rfl)

theorem quiet_smPortModeIndCb (cm : Cm) (mode : SmPortMode) :
    Quiet cm (cm.smPortModeIndCb mode) := by
  have hevent : ∀ cm' : Cm, Quiet cm cm' → Quiet cm
      (if portModeEvent mode ≠ .none then cm'.event (portModeEvent mode) else cm') := by
    intro cm' hq
    split_ifs with hmode
    · refine hq.trans (quiet_event cm' ?_)
      cases mode <;> first
        | rfl
        | exact absurd rfl hmode
    · exact hq
  refine hevent _ ?_
  split_ifs
  · exact .of_calls [.portEvent .portStatusChange] rfl rfl rfl rfl
  · exact Quiet.refl cm

/-- **What a job of the Configuration Manager does to the configuration.** -/
theorem outcome_callback (cm : Cm) (j : CmJob) : Outcome cm (cm.callback j) := by
  cases j with
  | smiMasterident r =>
    rw [callback, smiMasteridentCb]
    refine outcome_serve ?_
    exact outcome_cnf cm _ _ _
  | smiPortconfiguration r =>
    rw [callback, smiPortconfigurationCb]
    have hset : Quiet cm (cm.setReq r) := ⟨rfl, rfl, rfl⟩
    refine outcome_serve ?_
    exact Outcome.trans hset (outcome_cfgChange (cm.setReq r))
  | smiReadbackportconfiguration r =>
    rw [callback, smiReadbackportconfigurationCb]
    refine outcome_serve ?_
    exact outcome_cnf cm _ _ _
  | smiPortstatus r =>
    rw [callback, smiPortstatusCb]
    refine outcome_serve ?_
    exact outcome_cnf cm _ _ _
  | smPortModeInd mode => exact .quiet (quiet_smPortModeIndCb cm mode)
  | dsReady => exact .quiet (quiet_event cm rfl)
  | dsFault fault =>
    have hset : Quiet cm (cm.setDsFault fault) := ⟨rfl, rfl, rfl⟩
    exact .quiet (hset.trans (quiet_event (cm.setDsFault fault) rfl))

end Cm

/-! ### The two layers and their mailbox -/

/-- The jobs that other layers and the application post. -/
inductive PortJob
  | smiMasterident (r : CmRequest)
  | smiPortconfiguration (r : CmRequest)
  | smiReadbackportconfiguration (r : CmRequest)
  | smiPortstatus (r : CmRequest)
  | dsReady
  | dsFault (fault : DsFault)
  | dlMode (realmode : MhMode)
  | dlReadCnf (value : Octet) (stat : Status)
  | dlWriteCnf (stat : Status)
  | dlWriteDevmodeCnf (errorinfo : Status)
  | alReadCnf (cnf : ReadCnf)
  | writeCyclCnf (errortype : SmiErrorType)

/-- A job in the mailbox. -/
inductive MailboxJob
  | cm (j : CmJob)
  | sm (j : SmJob)

/-- The job as it is posted: `DL_Read_cnf` and `DL_Write_cnf` add the address of the last
request. -/
def PortJob.mail (dlAddr : Octet) : PortJob → MailboxJob
  | .smiMasterident r => .cm (.smiMasterident r)
  | .smiPortconfiguration r => .cm (.smiPortconfiguration r)
  | .smiReadbackportconfiguration r => .cm (.smiReadbackportconfiguration r)
  | .smiPortstatus r => .cm (.smiPortstatus r)
  | .dsReady => .cm .dsReady
  | .dsFault fault => .cm (.dsFault fault)
  | .dlMode realmode => .sm (.dlMode realmode)
  | .dlReadCnf value stat => .sm (.dlReadCnf dlAddr value stat)
  | .dlWriteCnf stat => .sm (.dlWriteCnf dlAddr stat)
  | .dlWriteDevmodeCnf errorinfo => .sm (.dlWriteDevmodeCnf errorinfo)
  | .alReadCnf c => .sm (.alReadCnf c)
  | .writeCyclCnf errortype => .sm (.writeCyclCnf errortype)

/-- The job a call of the Configuration Manager posts to System Management. -/
def CmCall.mail : CmCall → Option MailboxJob
  | .smSetPortConfigReq p => some (.sm (.setportcfg p))
  | .smOperate => some (.sm .operate)
  | _ => none

/-- The job a call of System Management posts to the Configuration Manager. -/
def SmCall.mail : SmCall → Option MailboxJob
  | .portModeInd mode => some (.cm (.smPortModeInd mode))
  | _ => none

/-- The configuration a job brings. -/
def MailboxJob.paramlist : MailboxJob → Option SmpParameterlist
  | .sm (.setportcfg p) => some p
  | _ => none

/-- The Configuration Manager and System Management of a port. The last three fields are history
that the program does not keep. -/
structure PortSys where
  cm : Cm := {}
  sm : Sm := {}
  mailbox : List MailboxJob := []
  /-- A configuration has been confirmed. -/
  confirmed : Bool := false
  /-- The configuration last requested with `SM_SetPortConfig_req`. -/
  requested : SmpParameterlist := {}
  /-- The configuration that was stored when the last start-up began. -/
  startup : SmpParameterlist := {}

/-- What can happen: a job is posted, the transmission rate is reported by `DL_Mode_ind_baud`, or
the job at the head of the mailbox is served; `dsChkCfg` is what `DS_Chk_Cfg` answers. -/
inductive PortInput
  | post (j : PortJob)
  | baud (realmode : MhMode)
  | serve (dsChkCfg : Bool)

/-- `mhmode_to_transmission_rate`. -/
def MhMode.transmissionRate : MhMode → TransmissionRate
  | .com1 => .com1
  | .com2 => .com2
  | .com3 => .com3
  | _ => .notDetected

namespace PortSys

/-- What the Configuration Manager sees of the other layers. -/
def view (s : PortSys) (dsChkCfg : Bool) : CmView where
  paramlist := s.sm.realParamlist
  transmissionRate := s.sm.comrate.transmissionRate
  dsChkCfg := dsChkCfg

/-- The state after a job of the Configuration Manager. -/
def afterCm (s : PortSys) (rest : List MailboxJob) (cm : Cm) : PortSys :=
  { s with
    cm := cm
    mailbox := rest ++ cm.calls.filterMap CmCall.mail
    confirmed := s.confirmed || cm.confirmed
    requested := cm.requests.getLastD s.requested }

/-- The state after a job of System Management. A start-up begins when `PortInactive` is left for
`ReadComParameter`. -/
def afterSm (s : PortSys) (rest : List MailboxJob) (sm : Sm) : PortSys :=
  { s with
    sm := sm
    mailbox := rest ++ sm.calls.filterMap SmCall.mail
    startup := if s.sm.state = .portInactive ∧ sm.state = .readComParameter then
      sm.configParamlist else s.startup }

/-- One step. -/
def step (s : PortSys) : PortInput → PortSys
  | .post j => { s with mailbox := s.mailbox ++ [j.mail s.sm.dlAddr] }
  | .baud realmode => { s with sm := s.sm.dlModeIndBaud realmode }
  | .serve dsChkCfg =>
    match s.mailbox with
    | [] => s
    | .cm j :: rest => s.afterCm rest (s.cm.handle (s.view dsChkCfg) j)
    | .sm j :: rest => s.afterSm rest (s.sm.handle j)

/-- The configurations that System Management has yet to look at. -/
def pending (s : PortSys) : List SmpParameterlist := s.mailbox.filterMap MailboxJob.paramlist

/-- Some configuration has been confirmed, and System Management has looked at all of them. -/
def Settled (s : PortSys) : Prop := s.confirmed = true ∧ s.pending = []

/-- The two layers agree on the configuration. -/
structure Agree (s : PortSys) : Prop where
  /-- System Management has stored the mode of the configuration in force. -/
  mode : s.sm.configParamlist.mode = s.cm.cfgList.list.portmode.targetMode
  /-- Its state is one of this mode. -/
  runs : s.sm.configParamlist.mode.runs s.sm.state = true
  /-- The device it communicates with was started for the configuration last requested. -/
  startup : s.sm.state.communicating = true → s.startup = s.requested

/-- The reports of COMREADY and OPERATE made in a step. -/
def reported (s : PortSys) : PortInput → List SmPortMode
  | .serve _ =>
    match s.mailbox with
    | .sm j :: _ => (s.sm.handle j).reports
    | _ => []
  | _ => []

/-- The job finds System Management in a state for it. A configuration meets a state that takes
it, or one that refuses it when it is already stored or another one is `behind`; and no start-up
is indicated for a port that is inactive. -/
def OrderlyJob (sm : Sm) (behind : List SmpParameterlist) : MailboxJob → Prop
  | .sm (.setportcfg p) =>
    sm.Takes p ∨ Sm.allowsSetportcfg sm.state = false ∧ (p = sm.configParamlist ∨ behind ≠ [])
  | .sm (.dlMode realmode) =>
    realmode = .startup → ¬ (sm.state = .portInactive ∧ sm.configParamlist.mode = .inactive)
  | _ => True

/-- The steps that keep the agreement. -/
def Orderly (s : PortSys) : PortInput → Prop
  | .serve _ => ∀ j ∈ s.mailbox.head?,
    OrderlyJob s.sm (s.mailbox.tail.filterMap MailboxJob.paramlist) j
  | _ => True

/-! ### The invariant -/

/-- What orderly steps keep. -/
structure Inv (s : PortSys) : Prop where
  issued : ∀ p ∈ s.sm.configParamlist :: s.pending, p.Issued
  /-- The last configuration on its way, or the one stored if there is none, is the one last
  requested. -/
  latest : s.pending.getLastD s.sm.configParamlist = s.requested
  confirmed : s.confirmed = true → s.requested.mode = s.cm.cfgList.list.portmode.targetMode
  runs : s.sm.configParamlist.mode.runs s.sm.state = true
  startup : s.sm.state.communicating = true → s.startup = s.sm.configParamlist

theorem inv_init : Inv {} where
  issued := by
    rintro p hp
    obtain rfl : p = {} := by simpa [pending] using hp
    exact ⟨rfl, nofun⟩
  latest := rfl
  confirmed := nofun
  runs := rfl
  startup := nofun

/-- **A settled port agrees.** -/
theorem Inv.agree {s : PortSys} (h : Inv s) (hs : Settled s) : Agree s := by
  have hlatest : s.sm.configParamlist = s.requested := by simpa [hs.2] using h.latest
  refine ⟨?_, h.runs, ?_⟩
  · rw [hlatest]
    exact h.confirmed hs.1
  · intro hc
    rw [← hlatest]
    exact h.startup hc

/-! ### Steps of the two layers -/

/-- Only requests of the Configuration Manager bring configurations into the mailbox. -/
private theorem mail_cm (cs : List CmCall) :
    (cs.filterMap CmCall.mail).filterMap MailboxJob.paramlist = cs.filterMap CmCall.paramlist := by
  rw [List.filterMap_filterMap]
  congr 1
  funext c
  cases c <;> rfl

private theorem mail_sm (cs : List SmCall) :
    (cs.filterMap SmCall.mail).filterMap MailboxJob.paramlist = [] := by
  rw [List.filterMap_filterMap, List.filterMap_eq_nil_iff]
  intro c _
  cases c <;> rfl

theorem pending_afterCm (s : PortSys) (rest : List MailboxJob) (cm : Cm) :
    (s.afterCm rest cm).pending = rest.filterMap MailboxJob.paramlist ++ cm.requests := by
  rw [pending, afterCm, List.filterMap_append, mail_cm]
  rfl

theorem pending_afterSm (s : PortSys) (rest : List MailboxJob) (sm : Sm) :
    (s.afterSm rest sm).pending = rest.filterMap MailboxJob.paramlist := by
  rw [pending, afterSm, List.filterMap_append, mail_sm, List.append_nil]

variable {s : PortSys} {rest : List MailboxJob}

theorem Inv.afterCm {j : CmJob} (h : Inv s) (hm : s.mailbox = .cm j :: rest) (view : CmView) :
    Inv (s.afterCm rest (s.cm.handle view j)) := by
  have hpend : rest.filterMap MailboxJob.paramlist = s.pending := by
    rw [pending, hm]
    rfl
  have hout := Cm.outcome_callback (s.cm.newJob view) j
  have hcfg := pending_afterCm s rest (s.cm.handle view j)
  rw [hpend] at hcfg
  change Cm.Outcome _ (s.cm.handle view j) at hout
  generalize s.cm.handle view j = cm at hout hcfg ⊢
  cases hout with
  | quiet hq =>
    have hreq : cm.requests = [] := hq.requests
    have hconf : cm.confirmed = false := hq.confirmed
    have hlist : cm.cfgList = s.cm.cfgList := hq.cfgList
    rw [hreq, List.append_nil] at hcfg
    refine ⟨?_, ?_, ?_, h.runs, h.startup⟩
    · rw [hcfg]
      exact h.issued
    · rw [hcfg, PortSys.afterCm, hreq]
      exact h.latest
    · simp only [PortSys.afterCm, hconf, Bool.or_false, hreq, hlist]
      exact h.confirmed
  | requested p hreq hmode hp =>
    have hreq : cm.requests = [p] := hreq
    rw [hreq] at hcfg
    refine ⟨?_, ?_, ?_, h.runs, h.startup⟩
    · intro q hq
      rw [hcfg, ← List.cons_append, List.mem_append, List.mem_singleton] at hq
      obtain hq | rfl := hq
      · exact h.issued q hq
      · exact hp
    · rw [hcfg, PortSys.afterCm, hreq]
      simp
    · simp only [PortSys.afterCm, hreq]
      exact fun _ => hmode

/-- A state change along the table stays within the mode, unless a start-up begins on an inactive
port. -/
private theorem runs_of_moves {mode : SmTargetMode} {st st' : SmState} {startup : Prop}
    (h : mode.runs st = true) (hmoves : st.Moves st' startup)
    (hstartup : startup → ¬ (st = .portInactive ∧ mode = .inactive)) : mode.runs st' = true := by
  obtain rfl | ⟨rfl, hne⟩ | ⟨hc, hc'⟩ | ⟨rfl, rfl, hs⟩ := hmoves
  · exact h
  · cases mode <;> first
      | rfl
      | exact absurd (of_decide_eq_true h) hne
  · cases mode <;> cases st <;> first
      | exact absurd h (by decide)
      | exact absurd hc (by decide)
      | cases st' <;> first
          | rfl
          | exact absurd hc' (by decide)
  · cases mode <;> first
      | rfl
      | exact absurd h (by decide)
      | exact absurd ⟨rfl, rfl⟩ (hstartup hs)

/-- After a move, a communication is the one before, or it has just begun. -/
private theorem communicating_of_moves {st st' : SmState} {startup : Prop}
    (hmoves : st.Moves st' startup) (hc : st'.communicating = true) :
    st.communicating = true ∨ st = .portInactive ∧ st' = .readComParameter := by
  obtain rfl | ⟨rfl, -⟩ | ⟨hst, -⟩ | ⟨hst, hst', -⟩ := hmoves
  · exact Or.inl hc
  · exact absurd hc (by decide)
  · exact Or.inl hst
  · exact Or.inr ⟨hst, hst'⟩

theorem Inv.afterSm {j : SmJob} (h : Inv s) (hm : s.mailbox = .sm j :: rest)
    (hj : ∀ p, j ≠ .setportcfg p)
    (hstartup : j = .dlMode .startup →
      ¬ (s.sm.state = .portInactive ∧ s.sm.configParamlist.mode = .inactive)) :
    Inv (s.afterSm rest (s.sm.handle j)) := by
  have hpend : rest.filterMap MailboxJob.paramlist = s.pending := by
    rw [pending, hm, List.filterMap_cons_none]
    cases j <;> first
      | rfl
      | exact absurd rfl (hj _)
  obtain ⟨hconfig, hmoves, -⟩ := Sm.handle_keeps hj s.sm
  have hpend' : (s.afterSm rest (s.sm.handle j)).pending = s.pending :=
    (pending_afterSm _ _ _).trans hpend
  have hcfg : (s.afterSm rest (s.sm.handle j)).sm.configParamlist = s.sm.configParamlist := hconfig
  refine ⟨?_, ?_, h.confirmed, ?_, ?_⟩
  · rw [hpend', hcfg]
    exact h.issued
  · rw [hpend', hcfg]
    exact h.latest
  · rw [hcfg]
    exact runs_of_moves h.runs hmoves hstartup
  · intro hc
    rw [hcfg]
    simp only [PortSys.afterSm]
    split_ifs with hbegin
    · exact hconfig
    · exact h.startup ((communicating_of_moves hmoves hc).resolve_right hbegin)

/-- A configuration that is served: the ones behind it are pending. -/
theorem pending_of_setportcfg {p : SmpParameterlist}
    (hm : s.mailbox = .sm (.setportcfg p) :: rest) :
    s.pending = p :: rest.filterMap MailboxJob.paramlist := by
  rw [pending, hm]
  rfl

theorem Inv.afterSetportcfg {p : SmpParameterlist} (h : Inv s)
    (hm : s.mailbox = .sm (.setportcfg p) :: rest)
    (hok : s.sm.Takes p ∨ Sm.allowsSetportcfg s.sm.state = false ∧
      (p = s.sm.configParamlist ∨ rest.filterMap MailboxJob.paramlist ≠ [])) :
    Inv (s.afterSm rest (s.sm.handle (.setportcfg p))) := by
  have hpend := pending_of_setportcfg hm
  have hpend' := pending_afterSm s rest (s.sm.handle (.setportcfg p))
  have hissued := h.issued
  have hlatest := h.latest
  rw [hpend] at hissued hlatest
  rw [List.getLastD_cons] at hlatest
  obtain htakes | ⟨hrefuses, hold⟩ := hok
  · obtain ⟨hconfig, hruns, hsilent⟩ := Sm.setportcfg_takes htakes
    have hserial := (hissued s.sm.configParamlist (by simp)).serialnumber
    rw [Sm.storeConfig_configParamlist hserial] at hconfig
    have hcfg : (s.afterSm rest (s.sm.handle (.setportcfg p))).sm.configParamlist = p := hconfig
    refine ⟨?_, ?_, h.confirmed, ?_, ?_⟩
    · rw [hpend', hcfg]
      exact fun q hq => hissued q (List.mem_cons_of_mem _ hq)
    · rw [hpend', hcfg]
      exact hlatest
    · rw [hcfg]
      exact hruns
    · intro hc
      exact absurd (hc.symm.trans hsilent) (by decide)
  · rw [Sm.setportcfg_refuses hrefuses] at hpend' ⊢
    refine ⟨?_, ?_, h.confirmed, h.runs, ?_⟩
    · rw [hpend']
      intro q hq
      refine hissued q ?_
      obtain rfl | hq := List.mem_cons.mp hq
      · exact List.mem_cons_self
      · exact List.mem_cons_of_mem _ (List.mem_cons_of_mem _ hq)
    · rw [hpend']
      -- without `p`, the last configuration is the same one
      obtain rfl | hne := hold
      · exact hlatest
      · rw [List.getLastD_eq_getLast?] at hlatest ⊢
        obtain ⟨q, hq⟩ := Option.isSome_iff_exists.mp (List.getLast?_isSome.mpr hne)
        rw [hq] at hlatest ⊢
        exact hlatest
    · intro hc
      simp only [PortSys.afterSm]
      split_ifs with hbegin
      · rfl
      · exact h.startup hc

/-- **One orderly step** keeps the invariant. -/
theorem Inv.step (h : Inv s) {i : PortInput} (hi : s.Orderly i) : Inv (s.step i) := by
  cases i with
  | post j =>
    have hpend : (s.step (.post j)).pending = s.pending := by
      rw [pending, PortSys.step, List.filterMap_append]
      cases j <;> exact List.append_nil _
    exact ⟨hpend ▸ h.issued, hpend ▸ h.latest, h.confirmed, h.runs, h.startup⟩
  | baud realmode =>
    have hstep : Inv { s with sm := s.sm.dlModeIndBaud realmode } := by
      rw [Sm.dlModeIndBaud]
      split_ifs
      · exact ⟨h.issued, h.latest, h.confirmed, h.runs, h.startup⟩
      · exact h
    exact hstep
  | serve dsChkCfg =>
    rw [Orderly] at hi
    rw [PortSys.step]
    rcases hm : s.mailbox with _ | ⟨j | j, rest⟩
    · exact h
    · exact h.afterCm hm _
    · rw [hm] at hi
      have hi := hi (.sm j) rfl
      by_cases hj : ∃ p, j = .setportcfg p
      · obtain ⟨p, rfl⟩ := hj
        exact h.afterSetportcfg hm hi
      · refine h.afterSm hm (fun p hp => hj ⟨p, hp⟩) ?_
        rintro rfl
        exact hi rfl

/-- The invariant holds in every state that orderly steps reach. -/
theorem inv_of_reaches (hs : Runs.Reaches step Orderly {} s) : Inv s :=
  hs.invariant Inv inv_init fun _ _ h hi => h.step hi

/-! ### The other steps -/

/-- A configuration that is dropped although it is new, with no other behind it: the port runs on
with the one before. -/
private theorem not_agree_of_dropped {p : SmpParameterlist} (h : Inv s)
    (hm : s.mailbox = .sm (.setportcfg p) :: rest)
    (hrefuses : Sm.allowsSetportcfg s.sm.state = false) (hne : p ≠ s.sm.configParamlist)
    (hlast : rest.filterMap MailboxJob.paramlist = []) (hconf : s.confirmed = true)
    (hagree : Agree (s.afterSm rest s.sm.newJob)) : False := by
  have hpend := pending_of_setportcfg hm
  have hlatest := h.latest
  rw [hpend, hlast] at hlatest
  have hrequested : s.requested = p := hlatest.symm
  have hmode : s.sm.configParamlist.mode = p.mode := by
    rw [← hrequested, h.confirmed hconf]
    exact hagree.mode
  by_cases hc : s.sm.state.communicating = true
  · have hstartup : s.startup = s.requested := by
      have hbegin : ¬ (s.sm.state = .portInactive ∧ s.sm.newJob.state = .readComParameter) := by
        rintro ⟨hst, -⟩
        rw [hst] at hc
        exact absurd hc (by decide)
      have := hagree.startup hc
      rwa [PortSys.afterSm, if_neg hbegin] at this
    exact hne (hrequested ▸ hstartup ▸ h.startup hc)
  · -- the only other state that refuses is `waitForFallback`, whose mode has a single list
    have hst : s.sm.state = .waitForFallback := by
      cases hst : s.sm.state <;> rw [hst] at hc hrefuses <;> first
        | rfl
        | exact absurd hrefuses (by decide)
        | exact absurd rfl hc
    have hinactive : s.sm.configParamlist.mode = .inactive := by
      have hruns := h.runs
      rw [hst] at hruns
      cases hmode : s.sm.configParamlist.mode <;> rw [hmode] at hruns <;> first
        | rfl
        | exact absurd hruns (by decide)
    have hp := (h.issued p (by rw [hpend]; simp)).inactive (hmode ▸ hinactive)
    exact hne (hp.trans ((h.issued _ List.mem_cons_self).inactive hinactive).symm)

/-- **A step that is not orderly** and leaves the port settled leaves it in disagreement. -/
theorem Inv.not_agree (h : Inv s) {i : PortInput} (hi : ¬ s.Orderly i)
    (hs : (s.step i).Settled) : ¬ (s.step i).Agree := by
  cases i with
  | post j => exact absurd trivial hi
  | baud realmode => exact absurd trivial hi
  | serve dsChkCfg =>
    simp only [Settled, PortSys.step] at hs ⊢
    rw [Orderly] at hi
    rcases hm : s.mailbox with _ | ⟨j | j, rest⟩
    · simp [hm] at hi
    · simp [hm, OrderlyJob] at hi
    simp only [hm, List.head?_cons, Option.mem_some_iff, forall_eq', List.tail_cons] at hs hi ⊢
    rw [pending_afterSm] at hs
    cases j with
    | setportcfg p =>
      rw [OrderlyJob, not_or, not_and, not_or, not_not] at hi
      obtain ⟨htakes, hrefuses⟩ := hi
      have hserial : s.sm.newJob.configParamlist.serialnumber = List.replicate 16 0 :=
        (h.issued _ List.mem_cons_self).serialnumber
      by_cases hallows : Sm.allowsSetportcfg s.sm.state = true
      · -- stored in `checkSerNum`, which is no state of the modes DI and DO
        obtain ⟨⟨hst, hmode⟩, hcb⟩ := Sm.setportcfg_overwrites hallows htakes
        intro hagree
        have hruns := hagree.runs
        have hcfg : (s.afterSm rest (s.sm.handle (.setportcfg p))).sm =
            s.sm.newJob.storeConfig p := hcb
        rw [hcfg, Sm.storeConfig_configParamlist hserial] at hruns
        have hst' : (s.sm.newJob.storeConfig p).state = .checkSerNum := hst
        rw [hst'] at hruns
        obtain hmode | hmode := hmode
        · rw [hmode] at hruns
          exact absurd hruns (by decide)
        · rw [hmode] at hruns
          exact absurd hruns (by decide)
      · have hallows : Sm.allowsSetportcfg s.sm.state = false := by simpa using hallows
        obtain ⟨hne, hlast⟩ := hrefuses hallows
        rw [Sm.setportcfg_refuses hallows]
        exact not_agree_of_dropped h hm hallows hne hlast hs.1
    | dlMode realmode =>
      rw [OrderlyJob, Classical.not_imp, not_not] at hi
      obtain ⟨rfl, hst, hmode⟩ := hi
      intro hagree
      have hstate := Sm.handle_startup hst
      have hcfg := (Sm.handle_keeps (j := .dlMode .startup) nofun s.sm).1
      have hruns : (s.sm.handle (.dlMode .startup)).configParamlist.mode.runs
        (s.sm.handle (.dlMode .startup)).state = true := hagree.runs
      rw [hcfg, hmode, hstate] at hruns
      exact absurd hruns (by decide)
    | _ => exact absurd trivial hi

/-! ### Agreement -/

/-- A settled port that reports a running device reports the one it was started for last. -/
theorem Inv.startup_of_reported (h : Inv s) (hs : s.Settled) {i : PortInput}
    (hr : s.reported i ≠ []) : s.startup = s.requested := by
  cases i with
  | serve dsChkCfg =>
    simp only [reported] at hr
    rcases hm : s.mailbox with _ | ⟨j | j, rest⟩ <;> simp only [hm] at hr
    · exact absurd rfl hr
    · exact absurd rfl hr
    have hj : ∀ p, j ≠ .setportcfg p := by
      rintro p rfl
      rw [Settled, pending_of_setportcfg hm] at hs
      exact absurd hs.2 (by simp)
    refine (h.agree hs).startup ?_
    by_contra hc
    exact hr ((Sm.handle_keeps hj s.sm).2.2 (by simpa using hc))
  | _ => exact absurd rfl hr

/-- A configuration that is not taken leaves the stored one alone, except where the table has no
row for it. -/
theorem Inv.config_of_not_takes (h : Inv s) {p : SmpParameterlist} (hp : ¬ s.sm.Takes p) :
    (s.sm.handle (.setportcfg p)).configParamlist = s.sm.configParamlist ↔
      ¬ (s.sm.state = .checkSerNum ∧ (p.mode = .di ∨ p.mode = .do_)) ∨
        p = s.sm.configParamlist := by
  have hserial : s.sm.newJob.configParamlist.serialnumber = List.replicate 16 0 :=
    (h.issued _ List.mem_cons_self).serialnumber
  by_cases hallows : Sm.allowsSetportcfg s.sm.state = true
  · obtain ⟨hgap, hcb⟩ := Sm.setportcfg_overwrites hallows hp
    rw [hcb, Sm.storeConfig_configParamlist hserial]
    simp [hgap]
  · have hallows : Sm.allowsSetportcfg s.sm.state = false := by simpa using hallows
    rw [Sm.setportcfg_refuses hallows]
    have hst : s.sm.state ≠ .checkSerNum := by
      intro hst
      rw [hst] at hallows
      exact absurd hallows (by decide)
    simp [hst]

/-- **Agreement on the port configuration.** After orderly steps, a settled port is in agreement
and reports only a device that was started for the configuration last requested; a further step
that leaves it settled keeps the agreement if and only if it is orderly; and a configuration that
is not taken leaves the stored one alone, except for DI and DO in `checkSerNum`. -/
theorem agreement_of_reaches (hs : Runs.Reaches step Orderly {} s) :
    (s.Settled → s.Agree ∧ ∀ i, s.reported i ≠ [] → s.startup = s.requested) ∧
      (∀ i, (s.step i).Settled → ((s.step i).Agree ↔ s.Orderly i)) ∧
      ∀ p, ¬ s.sm.Takes p →
        ((s.sm.handle (.setportcfg p)).configParamlist = s.sm.configParamlist ↔
          ¬ (s.sm.state = .checkSerNum ∧ (p.mode = .di ∨ p.mode = .do_)) ∨
            p = s.sm.configParamlist) := by
  have h := inv_of_reaches hs
  refine ⟨fun hset => ⟨h.agree hset, fun _ => h.startup_of_reported hset⟩, fun i hset => ?_,
    fun _ => h.config_of_not_takes⟩
  constructor
  · intro hagree
    by_contra hi
    exact h.not_agree hi hset hagree
  · intro hi
    exact (h.step hi).agree hset

section Instances

instance (s : PortSys) : Decidable s.Settled :=
  haveI : Decidable (s.pending = []) := decidable_of_iff _ List.isEmpty_iff
  inferInstanceAs (Decidable (_ ∧ _))

instance (s : PortSys) : Decidable s.Agree :=
  decidable_of_iff (_ ∧ _ ∧ (s.sm.state.communicating = true → s.startup = s.requested))
    ⟨fun h => ⟨h.1, h.2.1, h.2.2⟩, fun h => ⟨h.1, h.2, h.3⟩⟩

instance (sm : Sm) (behind : List SmpParameterlist) : DecidablePred (OrderlyJob sm behind)
  | .cm _ => isTrue trivial
  | .sm (.setportcfg _) => inferInstanceAs (Decidable (_ ∨ _ ∧ (_ ∨ _ ≠ [])))
  | .sm (.dlMode _) => inferInstanceAs (Decidable (_ → ¬ _))
  | .sm .operate => isTrue trivial
  | .sm (.dlReadCnf _ _ _) => isTrue trivial
  | .sm (.dlWriteCnf _ _) => isTrue trivial
  | .sm (.dlWriteDevmodeCnf _) => isTrue trivial
  | .sm (.alReadCnf _) => isTrue trivial
  | .sm (.writeCyclCnf _) => isTrue trivial

instance (s : PortSys) : DecidablePred s.Orderly
  | .post _ => isTrue trivial
  | .baud _ => isTrue trivial
  | .serve _ => inferInstanceAs (Decidable (∀ j ∈ s.mailbox.head?, OrderlyJob s.sm _ j))

/-- A request of the application to set the port mode. -/
def setMode (mode : PortMode) : PortInput :=
  .post (.smiPortconfiguration ⟨ArgBlockId.voidBlock, Cm.sizeofArgBlockPortconfiglist,
    ArgBlockId.portCfgList, { portmode := mode }⟩)

/-- A port that is set to IO-Link, and then to digital input while its device is identified. -/
def reconfigured : List PortInput :=
  [setMode .iolAuto, .serve false, .serve false, .post (.dlMode .startup), .serve false,
    setMode .diCq, .serve false, .serve false]

/-- The second configuration is confirmed and dropped: the port is settled, and System Management
goes on with the first one. -/
theorem dropped_configuration :
    ¬ ∀ s, Runs.Reaches step (fun _ _ => True) {} s → s.Settled → s.Agree := by
  intro h
  have hnot : (Runs.run step {} reconfigured).Settled ∧
      ¬ (Runs.run step {} reconfigured).Agree := by decide +kernel
  exact hnot.2 (h _ (Runs.reaches_run_true _ _) hnot.1)

/-- A port that is set to digital input before its device answers. -/
def configured : List PortInput :=
  [setMode .iolAuto, .serve false, .serve false, setMode .diCq, .serve false, .serve false]

/-- This one is settled and in agreement. -/
theorem agreement_of_configured :
    (Runs.run step {} configured).Settled ∧ (Runs.run step {} configured).Agree := by
  have hset : (Runs.run step {} configured).Settled := by decide +kernel
  have hreach : Runs.Reaches step Orderly {} (Runs.run step {} configured) :=
    Runs.reaches_run (by decide +kernel)
  exact ⟨hset, ((agreement_of_reaches hreach).1 hset).1⟩

end Instances

end PortSys

end IolHat
