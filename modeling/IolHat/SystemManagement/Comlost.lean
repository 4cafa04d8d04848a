import IolHat.SystemManagement.Jobs
import IolHat.Lib.Run

/-!
# Coming home after COMLOST

System Management hears of a lost communication twice: the data link layer indicates it
(`SM_EVENT_DL_Mode_COMLOST`), and a confirmation it was waiting for carries an error
(`SM_EVENT_CNF_COMLOST`). A state that waits for a confirmation ignores the first and acts on the
second; the others act on the first. Acting means `sm_comlost`, which tells the Configuration
Manager.

The table of `RestartDevice` does neither: after `sm_comlost` the machine stays there, where no
configuration is looked at, and an ignored indication takes it to `CheckComp`. Every other state
comes home (`Sm.comesHome_iff`), in either order (`Sm.home_iff`).
-/

namespace IolHat

namespace Sm

/-- The row of the table a job takes. -/
def taken (sm : Sm) (j : SmJob) : Option (Fsm.Transition SmState SmEvent Action) :=
  (sm.prepared j).row (sm.raised j)

/-- The job makes System Management signal COMLOST through `sm_comlost`. -/
def SignalsComlost (sm : Sm) (j : SmJob) : Prop := ∃ t ∈ sm.taken j, t.action = .comlost

/-- The job indicates COMLOST, and nothing is made of it. -/
def IgnoresComlost (sm : Sm) (j : SmJob) : Prop :=
  (j = .dlMode .comlost ∨ sm.raised j = .dlModeComlost) ∧ ¬ sm.SignalsComlost j

/-- What COMLOST should lead to. -/
structure ComesHome (sm : Sm) (j : SmJob) : Prop where
  /-- When COMLOST has been signalled, the port is inactive and takes any configuration. -/
  signalled : sm.SignalsComlost j →
    (sm.handle j).state = .portInactive ∧ ∀ p, (sm.handle j).Takes p
  /-- When it has been ignored, the state is the same. -/
  ignored : sm.IgnoresComlost j → (sm.handle j).state = sm.state

/-- The jobs by which `RestartDevice` hears of COMLOST: any mode indication and any confirmation
of a device mode, and the other confirmations when they carry an error. -/
def BringsComlost : SmJob → Prop
  | .dlMode _ => True
  | .dlWriteDevmodeCnf _ => True
  | .dlReadCnf _ _ stat => stat ≠ .noError
  | .dlWriteCnf _ stat => stat ≠ .noError
  | .alReadCnf c => c.errortype ≠ SmiErrorType.idxNotavail ∧
      (c.errortype ≠ SmiErrorType.none ∨ 16 < c.len)
  | .writeCyclCnf errortype => errortype ≠ SmiErrorType.none
  | .setportcfg _ => False
  | .operate => False

/-- The device is not being restarted when COMLOST arrives. -/
def Undisturbed (sm : Sm) (j : SmJob) : Prop := ¬ (sm.state = .restartDevice ∧ BringsComlost j)

instance (j : SmJob) : Decidable (BringsComlost j) :=
  match j with
  | .dlMode _ => isTrue trivial
  | .dlWriteDevmodeCnf _ => isTrue trivial
  | .dlReadCnf _ _ stat => inferInstanceAs (Decidable (stat ≠ .noError))
  | .dlWriteCnf _ stat => inferInstanceAs (Decidable (stat ≠ .noError))
  | .alReadCnf c => inferInstanceAs (Decidable (c.errortype ≠ SmiErrorType.idxNotavail ∧
      (c.errortype ≠ SmiErrorType.none ∨ 16 < c.len)))
  | .writeCyclCnf errortype => inferInstanceAs (Decidable (errortype ≠ SmiErrorType.none))
  | .setportcfg _ => isFalse not_false
  | .operate => isFalse not_false

instance (sm : Sm) (j : SmJob) : Decidable (sm.Undisturbed j) :=
  inferInstanceAs (Decidable (¬ (_ ∧ _)))

/-! ### The table -/

/-- In all states but one, `sm_comlost` is called on the way home, and an indication that is
ignored has a row that stays. -/
private theorem comlost_rows (s : SmState) : s ≠ .restartDevice → ∀ t ∈ transitions s,
    (t.action = .comlost → t.next = .portInactive) ∧
      (t.event = .dlModeComlost → t.action ≠ .comlost → t.next = s) := by
  cases s <;> decide

/-- `sm_comlost` is called for COMLOST. -/
private theorem event_of_comlost (s : SmState) : ∀ t ∈ transitions s, t.action = .comlost →
    t.event = .cnfComlost ∨ t.event = .dlModeComlost := by
  cases s <;> decide

/-- An inactive port takes any configuration. -/
theorem takes_of_portInactive {sm : Sm} (hs : sm.state = .portInactive) (p : SmpParameterlist) :
    sm.Takes p := by
  rw [Takes, row, hs]
  cases p.mode <;> exact ⟨rfl, rfl⟩

/-! ### Jobs -/

variable {sm : Sm} {j : SmJob}

/-- The state in which a job raises its event is the one before the job. -/
theorem prepared_state (sm : Sm) (j : SmJob) : (sm.prepared j).state = sm.state := by
  by_cases hj : ∃ p, j = .setportcfg p
  · obtain ⟨p, rfl⟩ := hj
    rw [prepared, callback, setportcfgReqCb]
    split_ifs <;> rfl
  · exact (prepared_callback (fun p hp => hj ⟨p, hp⟩) sm.newJob).kept.state

theorem handle_state (sm : Sm) (j : SmJob) :
    (sm.handle j).state = ((sm.taken j).map (·.next)).getD sm.state := by
  rw [handle, event_state, prepared_state]
  rfl

/-- A row that is taken belongs to the state and carries the event that is raised. -/
theorem mem_of_taken {t : Fsm.Transition SmState SmEvent Action} (h : sm.taken j = some t) :
    t ∈ transitions sm.state ∧ t.event = sm.raised j := by
  rw [← prepared_state sm j]
  exact Fsm.Machine.mem_of_row (M := fsm) h

/-- An indication raises its event, unless the callback sees at once that there is no
communication. -/
private theorem raised_of_comlost (sm : Sm) :
    sm.raised (.dlMode .comlost) = .dlModeComlost ∨ sm.raised (.dlMode .comlost) = .none := by
  rw [raised, callback, dlModeIndCb, modeInd, if_pos rfl]
  split
  · exact Or.inr rfl
  · exact Or.inr rfl
  · exact Or.inl rfl

/-- **Outside `RestartDevice`** the machine comes home. -/
theorem comesHome_of_ne (hs : sm.state ≠ .restartDevice) : sm.ComesHome j := by
  refine ⟨?_, ?_⟩
  · rintro ⟨t, ht, haction⟩
    have hstate : (sm.handle j).state = .portInactive := by
      rw [handle_state, ht]
      exact (comlost_rows _ hs t (mem_of_taken ht).1).1 haction
    exact ⟨hstate, takes_of_portInactive hstate⟩
  · rintro ⟨hcause, hnot⟩
    have hraised : sm.raised j = .dlModeComlost ∨ sm.raised j = .none := by
      obtain rfl | hraised := hcause
      · exact raised_of_comlost sm
      · exact Or.inl hraised
    obtain hraised | hraised := hraised
    · rw [handle_state]
      rcases ht : sm.taken j with _ | t
      · rfl
      · obtain ⟨hmem, hevent⟩ := mem_of_taken ht
        refine (comlost_rows _ hs t hmem).2 (hevent.trans hraised) fun haction => ?_
        exact hnot ⟨t, ht, haction⟩
    · rw [handle, hraised, event_none, prepared_state]

/-! ### The restart of a device -/

/-- The two rows of `RestartDevice` for COMLOST: neither leads home, neither stays. -/
private theorem not_comesHome_of_raised (hs : sm.state = .restartDevice)
    (hr : sm.raised j = .cnfComlost ∨ sm.raised j = .dlModeComlost) : ¬ sm.ComesHome j := by
  intro h
  have hst : (sm.prepared j).state = .restartDevice := (prepared_state sm j).trans hs
  obtain hr | hr := hr
  · have ht : sm.taken j = some ⟨.cnfComlost, .restartDevice, .comlost⟩ := by
      rw [taken, row, hst, hr]
      rfl
    have hhome := (h.signalled ⟨_, ht, rfl⟩).1
    rw [handle_state, ht] at hhome
    exact SmState.noConfusion hhome
  · have ht : sm.taken j = some ⟨.dlModeComlost, .checkComp, .comlostIgnore⟩ := by
      rw [taken, row, hst, hr]
      rfl
    have hnot : ¬ sm.SignalsComlost j := by
      rintro ⟨t, ht', haction⟩
      obtain rfl : _ = t := Option.some.inj (ht.symm.trans ht')
      exact Action.noConfusion haction
    have hstay := h.ignored ⟨Or.inr hr, hnot⟩
    rw [handle_state, ht, hs] at hstay
    exact SmState.noConfusion hstay

/-- The comparison of the serial numbers does not raise COMLOST. -/
private theorem raised_checkSernum (sm : Sm) :
    sm.checkSernum.2 ≠ .cnfComlost ∧ sm.checkSernum.2 ≠ .dlModeComlost := by
  rw [checkSernum]
  split_ifs <;> simp [fault, SmFault.event]

/-- The events a job raises while a device is restarted. -/
private theorem raised_restartDevice (hs : sm.state = .restartDevice) :
    (sm.raised j = .cnfComlost ∨ sm.raised j = .dlModeComlost) ↔ BringsComlost j := by
  rw [raised]
  cases j with
  | setportcfg p => simp [callback, setportcfgReqCb, hs, allowsSetportcfg, BringsComlost]
  | operate =>
    simp only [callback, operateCb, BringsComlost, iff_false]
    split_ifs <;> simp
  | dlMode realmode =>
    have hnote : (sm.newJob.noteMode realmode).state = .restartDevice := by
      rw [noteMode]
      split_ifs <;> exact hs
    rw [callback, dlModeIndCb, modeInd, hnote]
    split_ifs <;> simp [BringsComlost]
  | dlReadCnf addr value stat =>
    have hstored : (sm.newJob.storePage addr value).state = .restartDevice :=
      (kept_storePage sm.newJob addr value).state.trans hs
    rw [callback, dlReadCnfCb]
    split_ifs with hstat
    · simp [BringsComlost, hstat]
    · simp [BringsComlost, not_not.mp hstat]
    · simp [afterRead, hstored, BringsComlost, not_not.mp hstat]
  | dlWriteCnf addr stat =>
    rw [callback, dlWriteCnfCb]
    split_ifs with hstat
    · simp [BringsComlost, hstat]
    · simp [hs, BringsComlost, not_not.mp hstat]
  | dlWriteDevmodeCnf errorinfo => simp [callback, dlWriteDevmodeCnf, hs, BringsComlost]
  | alReadCnf c =>
    rw [callback, alReadCnfCb]
    split_ifs with hnotavail herror hv11 hlen
    · exact iff_of_false (not_or.mpr (raised_checkSernum _)) fun h => h.1 hnotavail
    · simp [BringsComlost, hnotavail, herror]
    · simp [BringsComlost, hnotavail, herror]
    · simp [BringsComlost, hnotavail, hlen]
    · exact iff_of_false (not_or.mpr (raised_checkSernum _)) fun h =>
        h.2.elim (fun hne => hne (not_not.mp herror)) hlen
  | writeCyclCnf errortype =>
    simp only [callback, writeCyclCnfCb, BringsComlost]
    split_ifs with h <;> simp [h]

/-- **Coming home, job by job.** -/
theorem comesHome_iff (sm : Sm) (j : SmJob) : sm.ComesHome j ↔ sm.Undisturbed j := by
  by_cases hs : sm.state = .restartDevice
  · have hu : sm.Undisturbed j ↔ ¬ BringsComlost j := by simp [Undisturbed, hs]
    rw [hu, ← raised_restartDevice hs]
    refine ⟨fun h hr => not_comesHome_of_raised hs hr h, fun hr => ⟨?_, ?_⟩⟩
    -- without one of the two events there is neither a signal nor anything to ignore
    · rintro ⟨t, ht, haction⟩
      obtain ⟨hmem, hevent⟩ := mem_of_taken ht
      exact absurd (hevent ▸ event_of_comlost _ t hmem haction) hr
    · rintro ⟨rfl | hraised, -⟩
      · exact absurd ((raised_restartDevice hs).mpr (show BringsComlost (.dlMode .comlost) from
          trivial)) hr
      · exact absurd (Or.inr hraised) hr
  · exact iff_of_true (comesHome_of_ne hs) fun h => hs h.1

/-! ### Whole runs -/

/-- **Coming home, in every run.** COMLOST leads home at every step of a run, or leaves the state
alone where it is ignored, if and only if it never arrives while a device is restarted. -/
theorem comlost_comes_home (sm : Sm) (js : List SmJob) :
    Runs.Admissible handle ComesHome sm js ↔ Runs.Admissible handle Undisturbed sm js :=
  Runs.admissible_congr comesHome_iff sm js

/-- **Both notifications, in either order**, lead home from every state of a port with
communication but `RestartDevice`. -/
theorem home_iff (sm : Sm) (hs : sm.state ≠ .dido) :
    (((sm.event .cnfComlost).event .dlModeComlost).state = .portInactive ∧
      ((sm.event .dlModeComlost).event .cnfComlost).state = .portInactive) ↔
        sm.state ≠ .restartDevice := by
  have hnext : ∀ e e' : SmEvent, ((sm.event e).event e').state =
      ((Fsm.lookup (transitions (sm.event e).state) e').map (·.next)).getD (sm.event e).state :=
    fun e e' => event_state _ _
  have hfirst : ∀ e : SmEvent, (sm.event e).state =
      ((Fsm.lookup (transitions sm.state) e).map (·.next)).getD sm.state := event_state sm
  simp only [hnext, hfirst]
  revert hs
  cases sm.state <;> decide

/-- A device with another revision than the configured one is restarted, and does not answer the
first octet of the restart: its confirmation and then the mode indication report the loss. -/
def lostDuringRestart : List SmJob :=
  [.setportcfg { mode := .cfgcom, revisionid := 0x11 }, .dlMode .startup,
    .dlReadCnf dirParamaMinCycl 0 .noError, .dlReadCnf dirParamaMseqCap 0 .noError,
    .dlReadCnf dirParamaRevId 0x12 .noError, .dlReadCnf dirParamaPdi 0 .noError,
    .dlReadCnf dirParamaPdo 0 .noError, .dlWriteCnf dirParamaMasterCmd .noError,
    .dlWriteCnf dirParamaRevId .noComm, .dlMode .comlost]

/-- COMLOST has been signalled, but the port ends in `CheckComp`, where the next configuration is
refused. -/
theorem comlost_during_restart :
    ¬ Runs.Admissible handle ComesHome {} lostDuringRestart ∧
      (Runs.run handle {} lostDuringRestart).state = .checkComp ∧
      allowsSetportcfg (Runs.run handle {} lostDuringRestart).state = false := by
  refine ⟨fun h => ?_, by decide +kernel, by decide +kernel⟩
  exact (by decide +kernel : ¬ Runs.Admissible handle Undisturbed {} lostDuringRestart)
    ((Runs.admissible_congr comesHome_iff _ _).mp h)

end Sm

end IolHat
