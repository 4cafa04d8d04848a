import IolHat.ConfigurationManager.Agreement

/-!
# Deactivating a port

The Configuration Manager enters `Port_Deactivated` in two ways: for a configuration that asks for
it, and for one that it refuses. `cm_deactivate` then has System Management take the mode of
`cfg_list`; on the second way this is still the configuration of before.

A run is watched together with the mode that System Management has been asked for last (`Asking`).
`deactivates_really_iff` says which runs are as intended: those in which a configuration is only
refused while the port is configured as deactivated.
-/

namespace IolHat

/-- A refusal that is reported to the application. -/
def CmCall.isJoberror : CmCall → Bool
  | .joberrorInd .. => true
  | _ => false

namespace Cm

/-- The modes that the calls made so far have System Management take. -/
def askedModes (cm : Cm) : List SmTargetMode := cm.requests.map SmpParameterlist.mode

/-- The state checks a new configuration. `DS_ParamManager` ignores it. -/
def ChecksConfig (cm : Cm) : Prop :=
  Fsm.lookup (transitions cm.state) .cfgChange = some ⟨.cfgChange, .checkPortMode, .checkMode⟩

theorem checksConfig_iff (cm : Cm) : cm.ChecksConfig ↔ cm.state ≠ .dsParamManager := by
  rw [ChecksConfig]
  cases cm.state <;> decide

instance (cm : Cm) : Decidable cm.ChecksConfig := decidable_of_iff _ cm.checksConfig_iff.symm

/-- The error of a request to configure the port, before the configuration is looked at. -/
def checkPortconfiguration (r : CmRequest) : Option SmiErrorType :=
  checkArgBlock r ArgBlockId.portCfgList sizeofArgBlockPortconfiglist ArgBlockId.voidBlock
    SmiErrorType.argblockInconsistent

/-- The job brings a configuration that `cm_check_mode` finds invalid. -/
def Refuses (cm : Cm) : CmJob → Prop
  | .smiPortconfiguration r =>
    checkPortconfiguration r = none ∧ cm.ChecksConfig ∧ r.configlist.event = .unknown
  | _ => False

instance (cm : Cm) : (j : CmJob) → Decidable (cm.Refuses j)
  | .smiPortconfiguration _ => inferInstanceAs (Decidable (_ ∧ _ ∧ _))
  | .smiMasterident _ | .smiReadbackportconfiguration _ | .smiPortstatus _ | .smPortModeInd _
  | .dsReady | .dsFault _ => inferInstanceAs (Decidable False)

/-! ### A configuration that is looked at -/

/-- What is left when a configuration has been checked, before its event is driven. -/
private theorem handle_portconfiguration {cm : Cm} {view : CmView} {r : CmRequest}
    (hcheck : checkPortconfiguration r = none) (hs : cm.ChecksConfig) :
    cm.handle view (.smiPortconfiguration r) =
      (((((cm.newJob view).setReq r).enter .checkPortMode).checkMode .cfgChange).1.event
        r.configlist.event) := by
  have hstate : ((cm.newJob view).setReq r).state ≠ .dsParamManager := cm.checksConfig_iff.mp hs
  have hserve : cm.handle view (.smiPortconfiguration r) =
      ((cm.newJob view).setReq r).event .cfgChange := by
    rw [handle, callback, smiPortconfigurationCb, ← checkPortconfiguration, hcheck]
    rfl
  rw [hserve, event_cfgChange hstate]
  rfl

/-- T11 and T16. -/
theorem event_deactivating {cm : Cm} (hs : cm.state = .checkPortMode) {e : CmEvent}
    (he : e = .deactivated ∨ e = .unknown) :
    cm.event e = (cm.enter .portDeactivated).deactivate e := by
  have hrow : fsm.row cm e = some ⟨e, .portDeactivated, .deactivate⟩ := by
    rcases he with rfl | rfl <;> exact Fsm.Machine.row_of_state hs rfl
  exact Fsm.Machine.drive_of_row_idle hrow rfl

/-- T1, T2, T9 and T10. -/
theorem event_starting {cm : Cm} (hs : cm.state = .checkPortMode) {e : CmEvent}
    (he : e = .iolManual ∨ e = .iolAutostart ∨ e = .diCq ∨ e = .doCq) :
    (cm.event e).state ≠ .portDeactivated := by
  rcases he with rfl | rfl | rfl | rfl
  · have hrow := Fsm.Machine.row_of_state (M := fsm) (e := .iolManual) hs rfl
    rw [event, Fsm.Machine.drive_of_row_idle hrow rfl]
    rintro ⟨⟩
  · have hrow := Fsm.Machine.row_of_state (M := fsm) (e := .iolAutostart) hs rfl
    rw [event, Fsm.Machine.drive_of_row_idle hrow rfl]
    rintro ⟨⟩
  · have hrow := Fsm.Machine.row_of_state (M := fsm) (e := .diCq) hs rfl
    rw [event, Fsm.Machine.drive_of_row_idle hrow rfl]
    rintro ⟨⟩
  · have hrow := Fsm.Machine.row_of_state (M := fsm) (e := .doCq) hs rfl
    rw [event, Fsm.Machine.drive_of_row_idle hrow rfl]
    rintro ⟨⟩

theorem deactivate_unknown (cm : Cm) : cm.deactivate .unknown =
    (cm.initPortInfo .deactivated .invalid).callAll
      [.dsDelete, .smSetPortConfigReq { mode := cm.cfgList.list.portmode.targetMode }] := rfl

/-- **A refused configuration.** The port is deactivated with the mode of the configuration of
before. -/
theorem handle_refused {cm : Cm} (view : CmView) {j : CmJob} (h : cm.Refuses j) :
    (cm.handle view j).state = .portDeactivated ∧
      (cm.handle view j).calls.countP CmCall.isJoberror = 1 ∧
      (cm.handle view j).cfgList = cm.cfgList ∧
      (cm.handle view j).askedModes = [cm.cfgList.list.portmode.targetMode] := by
  cases j with
  | smiPortconfiguration r =>
    obtain ⟨hcheck, hs, hcfg⟩ := h
    have hchecked : ((((cm.newJob view).setReq r).enter .checkPortMode).checkMode .cfgChange).1 =
        (((cm.newJob view).setReq r).enter .checkPortMode).callAll [.pdStop, .odStop,
          .joberrorInd r.exp r.ref SmiErrorType.argblockInconsistent] := dif_pos hcfg
    rw [handle_portconfiguration hcheck hs, hchecked, hcfg, event_deactivating rfl (.inr rfl),
      deactivate_unknown]
    exact ⟨rfl, rfl, rfl, rfl⟩
  | _ => exact h.elim

/-! ### Any other job -/

/-- The configuration in force deactivates the port exactly if its mode says so. -/
theorem targetMode_inactive_iff (cfg : AcceptedConfig) :
    cfg.list.portmode.targetMode = .inactive ↔ cfg.list.portmode = .deactive := by
  have hne : cfg.list.portmode ≠ .other := by
    intro hother
    refine cfg.accepted ?_
    rw [PortConfigList.event, hother]
    split_ifs <;> rfl
  revert hne
  cases cfg.list.portmode <;> decide

/-- Nothing has been requested, and the port has not been deactivated. -/
private def Still (cm cm' : Cm) : Prop :=
  Quiet cm cm' ∧ (cm'.state = .portDeactivated → cm.state = .portDeactivated)

private theorem still_of_state {cm cm' : Cm} (hq : Quiet cm cm') (hs : cm'.state = cm.state) :
    Still cm cm' := ⟨hq, fun h => hs ▸ h⟩

private theorem still_serve {cm : Cm} {r : CmRequest} {check : Option SmiErrorType} {f : Cm → Cm}
    (hf : Still cm (f cm)) : Still cm (cm.serve r check f) := by
  cases check with
  | none => exact hf
  | some error =>
    simp only [serve]
    split_ifs
    · exact still_of_state (Quiet.refl cm) rfl
    · exact still_of_state (.of_calls [.joberrorInd r.exp r.ref error] rfl rfl rfl rfl) rfl

private theorem still_cnf (cm : Cm) (ref : ArgBlockId) (len : ℕ) (block : CmBlock) :
    Still cm (cm.call (.cnf ref len block)) :=
  still_of_state (.of_calls [.cnf ref len block] rfl rfl rfl rfl) rfl

private theorem still_event (cm : Cm) {e : CmEvent} (he : quietEvent e = true) :
    Still cm (cm.event e) := ⟨quiet_event cm he, quiet_event_state cm he⟩

private theorem state_smPortModeIndCb (cm : Cm) (mode : SmPortMode)
    (h : (cm.smPortModeIndCb mode).state = .portDeactivated) : cm.state = .portDeactivated := by
  have hevent (cm' : Cm) (hs : cm'.state = cm.state)
      (h : (if portModeEvent mode ≠ .none then cm'.event (portModeEvent mode) else cm').state =
        .portDeactivated) : cm.state = .portDeactivated := by
    split_ifs at h with hmode
    · refine hs.symm.trans (quiet_event_state cm' ?_ h)
      cases mode <;> first
        | rfl
        | exact absurd rfl hmode
    · exact hs.symm.trans h
  refine hevent _ ?_ h
  split_ifs <;> rfl

/-- A job that brings no configuration deactivates nothing. -/
private theorem still_callback (cm : Cm) {j : CmJob} (hj : ∀ r, j ≠ .smiPortconfiguration r) :
    Still cm (cm.callback j) := by
  cases j with
  | smiPortconfiguration r => exact absurd rfl (hj r)
  | smiMasterident r =>
    rw [callback, smiMasteridentCb]
    refine still_serve ?_
    exact still_cnf _ _ _ _
  | smiReadbackportconfiguration r =>
    rw [callback, smiReadbackportconfigurationCb]
    refine still_serve ?_
    exact still_cnf _ _ _ _
  | smiPortstatus r =>
    rw [callback, smiPortstatusCb]
    refine still_serve ?_
    exact still_cnf _ _ _ _
  | smPortModeInd mode => exact ⟨quiet_smPortModeIndCb cm mode, state_smPortModeIndCb cm mode⟩
  | dsReady => exact still_event cm rfl
  | dsFault fault =>
    have hset : Quiet cm (cm.setDsFault fault) := ⟨rfl, rfl, rfl⟩
    obtain ⟨hq, hs⟩ := still_event (cm.setDsFault fault) (e := .dsFault) rfl
    exact ⟨hset.trans hq, hs⟩

/-- What a new job that keeps still has requested: nothing. -/
private theorem askedModes_of_still {cm cm' : Cm} {view : CmView} (h : Still (cm.newJob view) cm')
    (hd : cm'.state = .portDeactivated) : cm.state = .portDeactivated ∧ cm'.askedModes = [] := by
  refine ⟨h.2 hd, ?_⟩
  rw [askedModes, h.1.requests]
  rfl

/-- A configuration that asks for it deactivates the port. -/
private theorem event_deactivated_eq {cfg : PortConfigList} (h : cfg.event = .deactivated) :
    cfg.portmode = .deactive := by
  rw [PortConfigList.event] at h
  split_ifs at h
  revert h
  cases cfg.portmode <;> decide

/-- **What deactivates a port.** Unless the job is refused, a port that is then deactivated was so
before and has not been configured by this job, or has been configured so by it. -/
theorem handle_deactivated {cm : Cm} {view : CmView} {j : CmJob} (h : ¬ cm.Refuses j)
    (hd : (cm.handle view j).state = .portDeactivated) :
    cm.state = .portDeactivated ∧ (cm.handle view j).askedModes = [] ∨
      (cm.handle view j).askedModes = [.inactive] := by
  by_cases hj : ∃ r, j = .smiPortconfiguration r
  · obtain ⟨r, rfl⟩ := hj
    rcases hcheck : checkPortconfiguration r with _ | error
    · have hs : cm.ChecksConfig := by
        by_contra hs
        have hstate : ((cm.newJob view).setReq r).state = .dsParamManager := by
          rwa [checksConfig_iff, not_not] at hs
        have hserve : cm.handle view (.smiPortconfiguration r) =
            ((cm.newJob view).setReq r).event .cfgChange := by
          rw [handle, callback, smiPortconfigurationCb, ← checkPortconfiguration, hcheck]
          rfl
        rw [hserve, event_cfgChange_ignored hstate] at hd
        cases hd
      have hcfg : r.configlist.event ≠ .unknown := fun hcfg => h ⟨hcheck, hs, hcfg⟩
      have hchecked :
          ((((cm.newJob view).setReq r).enter .checkPortMode).checkMode .cfgChange).1 =
            ((((cm.newJob view).setReq r).enter .checkPortMode).setCfgList
              ⟨r.configlist, hcfg⟩).callAll [.pdStop, .odStop, .voidblockCnf r.ref] :=
        dif_neg hcfg
      rw [handle_portconfiguration hcheck hs, hchecked] at hd ⊢
      have hmem := PortConfigList.event_mem r.configlist
      -- Only a deactivation ends in PortDeactivated, and its target mode is INACTIVE.
      by_cases hdeact : r.configlist.event = .deactivated
      · have hmode := event_deactivated_eq hdeact
        rw [hdeact, event_deactivating rfl (.inl rfl)]
        refine .inr ?_
        show [r.configlist.portmode.targetMode] = _
        rw [hmode]
        rfl
      · refine absurd hd (event_starting rfl ?_)
        simp only [List.mem_cons, List.not_mem_nil, or_false] at hmem
        tauto
    · have hserve : Still (cm.newJob view) (cm.handle view (.smiPortconfiguration r)) := by
        rw [handle, callback, smiPortconfigurationCb, ← checkPortconfiguration, hcheck]
        simp only [serve]
        split_ifs
        · exact still_of_state (Quiet.refl _) rfl
        · exact still_of_state (.of_calls [.joberrorInd r.exp r.ref error] rfl rfl rfl rfl) rfl
      exact .inl (askedModes_of_still hserve hd)
  · have hstill := still_callback (cm.newJob view) fun r hr => hj ⟨r, hr⟩
    exact .inl (askedModes_of_still hstill hd)

end Cm

/-! ### Runs with the mode that has been asked for -/

/-- The layer, watched together with the mode that System Management has been asked for last. -/
structure Asking where
  cm : Cm := {}
  asked : Option SmTargetMode := none

namespace Asking

/-- One job, with what it sees of the other layers. -/
def step (a : Asking) (i : CmView × CmJob) : Asking where
  cm := a.cm.handle i.1 i.2
  asked := (a.cm.handle i.1 i.2).askedModes.getLast?.or a.asked

/-- System Management has been asked for nothing but the mode `INACTIVE` last. -/
def AskedInactive (a : Asking) : Prop := ∀ mode ∈ a.asked, mode = .inactive

/-- A refused configuration deactivates the port, with one error and the configuration of before,
and a deactivated port is one that System Management has been told to deactivate. -/
structure DeactivatesReally (a : Asking) (i : CmView × CmJob) : Prop where
  refused : a.cm.Refuses i.2 → (a.step i).cm.state = .portDeactivated ∧
    (a.step i).cm.calls.countP CmCall.isJoberror = 1 ∧
    (a.step i).cm.cfgList = a.cm.cfgList ∧ (a.step i).cm.askedModes = [.inactive]
  deactivated : (a.step i).cm.state = .portDeactivated → (a.step i).AskedInactive

/-- A configuration is only refused while the port is configured as deactivated. -/
def RefusesWhileDeactive (a : Asking) (i : CmView × CmJob) : Prop :=
  a.cm.Refuses i.2 → a.cm.cfgList.list.portmode = .deactive

instance (a : Asking) (i : CmView × CmJob) : Decidable (a.RefusesWhileDeactive i) :=
  inferInstanceAs (Decidable (_ → _))

private theorem asked_of_modes {a : Asking} {i : CmView × CmJob}
    (h : (a.step i).cm.askedModes = [.inactive]) : (a.step i).AskedInactive := by
  have hasked : (a.step i).asked = some .inactive := by
    show (a.step i).cm.askedModes.getLast?.or a.asked = _
    rw [h]
    rfl
  rintro mode hmode
  rw [hasked, Option.mem_some_iff] at hmode
  exact hmode.symm

/-- One job, on a port that is only deactivated when it has been told to be. -/
private theorem deactivatesReally_iff_step {a : Asking} (i : CmView × CmJob)
    (ha : a.cm.state = .portDeactivated → a.AskedInactive) :
    a.DeactivatesReally i ↔ a.RefusesWhileDeactive i := by
  constructor
  · intro h hr
    have hmode := (Cm.handle_refused i.1 hr).2.2.2
    rw [show (a.cm.handle i.1 i.2).askedModes = [.inactive] from (h.refused hr).2.2.2] at hmode
    exact (Cm.targetMode_inactive_iff _).mp (List.singleton_inj.mp hmode).symm
  · intro h
    have hrefused (hr : a.cm.Refuses i.2) : (a.step i).cm.askedModes = [.inactive] := by
      have hmode := (Cm.handle_refused i.1 hr).2.2.2
      rwa [(Cm.targetMode_inactive_iff _).mpr (h hr)] at hmode
    refine ⟨fun hr => ?_, fun hd => ?_⟩
    · obtain ⟨hs, hcount, hlist, -⟩ := Cm.handle_refused i.1 hr
      exact ⟨hs, hcount, hlist, hrefused hr⟩
    · by_cases hr : a.cm.Refuses i.2
      · exact asked_of_modes (hrefused hr)
      · rcases Cm.handle_deactivated hr hd with ⟨hs, hnone⟩ | hinactive
        · -- the mode asked for is that of before
          have hasked : (a.step i).asked = a.asked := by
            show (a.cm.handle i.1 i.2).askedModes.getLast?.or a.asked = _
            rw [hnone]
            rfl
          rw [AskedInactive, hasked]
          exact ha hs
        · exact asked_of_modes hinactive

/-- **When deactivating a port is real.** The jobs of a run all do what they should exactly if
configurations are only refused while the configuration in force is that of a deactivated port. -/
theorem deactivates_really_iff (jobs : List (CmView × CmJob)) :
    Runs.Admissible step DeactivatesReally {} jobs ↔
      Runs.Admissible step RefusesWhileDeactive {} jobs := by
  refine Runs.admissible_iff_of_invariant
    (I := fun a => a.cm.state = .portDeactivated → a.AskedInactive)
    (fun a i ha => deactivatesReally_iff_step i ha) (fun a i _ h => h.deactivated) ?_ jobs
  rintro - mode hmode
  cases hmode

/-- A request to configure the port. -/
def configure (cfg : PortConfigList) : CmView × CmJob :=
  ({}, .smiPortconfiguration
    { exp := ArgBlockId.voidBlock, argBlockLen := 14, ref := ArgBlockId.portCfgList,
      configlist := cfg })

/-- **A refused configuration starts the port.** The port has been configured for communication
when a configuration with an unknown port mode arrives: the layer goes to `Port_Deactivated` and
has System Management take the mode `CFGCOM`. -/
theorem refused_configuration_starts_the_port :
    ¬ Runs.Admissible step DeactivatesReally {}
      [configure { portmode := .iolMan }, configure { portmode := .other }] := by
  rintro ⟨-, h, -⟩
  have hmodes := (h.refused (by decide)).2.2.2
  exact absurd hmodes (by decide)

end Asking

end IolHat
