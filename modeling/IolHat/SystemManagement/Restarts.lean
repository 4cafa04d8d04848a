import IolHat.SystemManagement.Startup
import IolHat.Lib.Run

/-!
# How often a device is restarted

A device whose revision or device id does not fit the configuration is restarted with the configured
ids (`RestartDevice`), once: `CompRetry` counts the restarts, `DL_Mode_STARTUP` sets it to zero, and
a mismatch that finds it above zero is a fault. `RestartDevice` itself leads back to
`ReadComParameter`, where everything is read again, without `CompRetry` being touched.

* `Sm.handle_restarts` is what one job does to the counter, and `Sm.settles_handle` what a check of
  the device ends in.
* `Restarts` is System Management with the number of restarts since the last `DL_Mode_STARTUP`.
* `Restarts.restarts_once` bounds the restarts of every run, and says what a mismatch ends in.
-/

namespace IolHat

namespace Sm

/-- The configuration asks for another revision. -/
def RevisionMismatch (sm : Sm) : Prop :=
  sm.configParamlist.revisionid ≠ 0 ∧
    sm.configParamlist.revisionid ≠ sm.realParamlist.revisionid

/-- The configuration asks for another device. -/
def DeviceMismatch (sm : Sm) : Prop :=
  sm.configParamlist.inspectionlevel ≠ .noCheck ∧
    (sm.configParamlist.vendorid ≠ sm.realParamlist.vendorid ∨
      sm.configParamlist.deviceid ≠ sm.realParamlist.deviceid)

/-- The job is the confirmation that a check of the device waits for: of the write in `CheckVxy`, of
the last read in the other two states. -/
def ChecksDevice (sm : Sm) : SmJob → Prop
  | .dlWriteCnf _ stat => stat = .noError ∧ sm.state = .checkVxy
  | .dlReadCnf addr _ stat => stat = .noError ∧ addr = dirParamaFid2 ∧
      (sm.state = .checkComp ∨ sm.state = .checkCompV10)
  | _ => False

/-- What a check of the device ends in. -/
inductive Settles (sm : Sm) : SmState → Prop
  /-- Acceptance of the revision. -/
  | revision (h : ¬ sm.RevisionMismatch) (hs : sm.state = .checkVxy) : Settles sm .checkComp
  /-- Acceptance of the device. -/
  | device (h : ¬ sm.DeviceMismatch) (hs : sm.state = .checkComp) : Settles sm .waitonDLPreoperate
  | deviceV10 (h : ¬ sm.DeviceMismatch) (hs : sm.state = .checkCompV10) :
    Settles sm .waitonDLOperate
  | fault : Settles sm .inspectionFault
  /-- The restart, the first since the last `DL_Mode_STARTUP`. -/
  | restart (h : sm.compRetry = 0) : Settles sm .restartDevice

/-! ### The table -/

/-- `RestartDevice` is entered for `SM_EVENT_RETRY_STARTUP` only. -/
private theorem restart_rows (s : SmState) : ∀ t ∈ transitions s,
    (t.action = .restartDevice → t.event = .retryStartup) ∧
      (t.next = .restartDevice → s = .restartDevice ∨
        t.event = .retryStartup ∧ t.action = .restartDevice) := by
  cases s <;> decide

/-- The retry counter after an action. -/
private theorem compRetry_perform (a : Action) (sm : Sm) (e : SmEvent) :
    (perform a sm e).compRetry =
      if a = .restartDevice then sm.compRetry + 1
      else if a = .readcomparameter ∧ e = .dlModeStartup then 0 else sm.compRetry := by
  cases a
  case readcomparameter =>
    rw [perform, readcomparameter]
    by_cases he : e = .dlModeStartup
    · subst he; rfl
    · rw [if_neg he, if_neg (by decide), if_neg fun h => he h.2]
      rfl
  case smoperateInd =>
    rw [perform, smoperateInd]
    by_cases he : e = .dlModeOperate ∨ e = .smOperateV10
    · rw [if_pos he]
      rfl
    · rw [if_neg he]
      rfl
  case portinactive => cases e <;> rfl
  case inspectFault => cases e <;> rfl
  all_goals rfl

/-! ### Callbacks -/

/-- What a callback has done when it raises its event: the counter is the same, and a restart is
asked for only when it is zero. -/
structure Counted (sm : Sm) (r : Sm × SmEvent) : Prop where
  compRetry : r.1.compRetry = sm.compRetry
  retry : r.2 = .retryStartup → sm.compRetry = 0

variable {sm sm' : Sm} {j : SmJob}

/-- Another event, or none. -/
private theorem Counted.other {r : Sm × SmEvent} (h : r.1.compRetry = sm.compRetry)
    (he : r.2 ≠ .retryStartup) : Counted sm r := ⟨h, fun hno => absurd hno he⟩

private theorem Counted.fault (h : sm'.compRetry = sm.compRetry) (f : SmFault) :
    Counted sm (sm'.fault f) := by
  refine .other h ?_
  cases f <;> exact SmEvent.noConfusion

private theorem counted_doCheckCompV10 (h : sm'.compRetry = sm.compRetry) :
    Counted sm sm'.doCheckCompV10 := by
  rw [doCheckCompV10]
  split_ifs
  · exact .fault h _
  · exact .other h SmEvent.noConfusion
  · exact .other h SmEvent.noConfusion
  · exact .fault h _

private theorem counted_doCheckComp (h : sm'.compRetry = sm.compRetry) :
    Counted sm sm'.doCheckComp := by
  rw [doCheckComp]
  split_ifs with _ _ _ _ hzero
  · exact .fault h _
  · exact .other h SmEvent.noConfusion
  · exact .fault h _
  · exact .other h SmEvent.noConfusion
  · exact ⟨h, fun _ => h.symm.trans hzero⟩
  · exact .fault h _

private theorem counted_checkSernum (h : sm'.compRetry = sm.compRetry) :
    Counted sm sm'.checkSernum := by
  rw [checkSernum]
  split_ifs
  · exact .other h SmEvent.noConfusion
  · exact .fault h _
  · exact .other h SmEvent.noConfusion

private theorem compRetry_storePage (sm : Sm) (addr value : Octet) :
    (sm.storePage addr value).compRetry = sm.compRetry := by
  unfold storePage
  split
  next p _ =>
    cases p <;> simp only [storeParam, storeMinCycl, callAll_compRetry, setOlder_compRetry,
      modDevCom_compRetry, modReal_compRetry]
  · rfl

private theorem counted_dlReadCnfCb (sm : Sm) (addr value : Octet) (stat : Status) :
    Counted sm (sm.dlReadCnfCb addr value stat) := by
  have hstore := compRetry_storePage sm addr value
  rw [dlReadCnfCb]
  split_ifs
  · exact .other rfl SmEvent.noConfusion
  · exact .other rfl SmEvent.noConfusion
  -- of the octet that has been stored only the counter matters
  generalize sm.storePage addr value = stored at hstore ⊢
  have hcomp : Counted sm (stored.dlReadCnfCheckComp addr) := by
    rw [dlReadCnfCheckComp]
    split_ifs
    · exact .other hstore SmEvent.noConfusion
    · exact counted_doCheckCompV10 hstore
    · exact counted_doCheckComp hstore
  rw [afterRead]
  split
  · rw [dlReadCnfReadComParam]
    split_ifs
    · exact .other hstore SmEvent.noConfusion
    · exact .other hstore SmEvent.noConfusion
    · exact .other hstore SmEvent.noConfusion
  · exact hcomp
  · exact hcomp
  · exact .other hstore SmEvent.noConfusion
  · exact .other hstore SmEvent.noConfusion

private theorem compRetry_restartDev (sm : Sm) (addr : Octet) :
    (sm.dlWriteCnfRestartDev addr).compRetry = sm.compRetry := by
  rw [dlWriteCnfRestartDev]
  cases sm.configParamlist.mode <;> split_ifs <;> rfl

private theorem counted_dlWriteCnfCb (sm : Sm) (addr : Octet) (stat : Status) :
    Counted sm (sm.dlWriteCnfCb addr stat) := by
  rw [dlWriteCnfCb]
  split_ifs
  · exact .other rfl SmEvent.noConfusion
  split
  · exact .other rfl SmEvent.noConfusion
  · refine .other rfl ?_
    rcases sm.errorEvent with _ | f
    · exact SmEvent.noConfusion
    · cases f <;> exact SmEvent.noConfusion
  · rw [dlWriteCnfCheckvxy]
    split_ifs with _ hzero
    · exact .other rfl SmEvent.noConfusion
    · exact ⟨rfl, fun _ => hzero⟩
    · exact .fault rfl _
  · exact .other (compRetry_restartDev sm addr) SmEvent.noConfusion
  · refine .other ?_ ?_
    · rw [dlWriteCnfWaitonOperate]
      split_ifs <;> rfl
    · exact SmEvent.noConfusion
  · exact .other rfl SmEvent.noConfusion

private theorem counted_modeInd (h : sm'.compRetry = sm.compRetry) (realmode : MhMode) :
    Counted sm (sm'.modeInd realmode) := by
  rw [modeInd]
  by_cases hlost : realmode = .comlost
  · rw [if_pos hlost]
    split <;> exact .other h SmEvent.noConfusion
  rw [if_neg hlost]
  split
  · cases realmode with
    | inactive =>
      rw [dlModeIndCbInactive]
      split_ifs <;> exact .other h SmEvent.noConfusion
    | _ => exact .other h SmEvent.noConfusion
  · split_ifs <;> exact .other h SmEvent.noConfusion
  · split_ifs <;> exact .other h SmEvent.noConfusion
  · split_ifs <;> exact .other h SmEvent.noConfusion
  · exact .other h SmEvent.noConfusion
  · exact .other h SmEvent.noConfusion

private theorem counted_alReadCnfCb (sm : Sm) (c : ReadCnf) : Counted sm (sm.alReadCnfCb c) := by
  rw [alReadCnfCb]
  split_ifs
  · exact counted_checkSernum rfl
  · exact .other rfl SmEvent.noConfusion
  · exact .other rfl SmEvent.noConfusion
  · exact .other rfl SmEvent.noConfusion
  · exact counted_checkSernum rfl

/-- **The callbacks** keep the counter. -/
theorem counted_callback (sm : Sm) (j : SmJob) : Counted sm (sm.callback j) := by
  cases j with
  | setportcfg p =>
    rw [callback, setportcfgReqCb]
    split_ifs
    · exact .other rfl (by cases p.mode <;> exact SmEvent.noConfusion)
    · exact .other rfl SmEvent.noConfusion
  | operate =>
    rw [callback, operateCb]
    split_ifs <;> exact .other rfl SmEvent.noConfusion
  | dlMode realmode =>
    rw [callback, dlModeIndCb]
    refine counted_modeInd ?_ realmode
    rw [noteMode]
    split_ifs <;> rfl
  | dlReadCnf addr value stat => exact counted_dlReadCnfCb sm addr value stat
  | dlWriteCnf addr stat => exact counted_dlWriteCnfCb sm addr stat
  | dlWriteDevmodeCnf errorinfo =>
    rw [callback, dlWriteDevmodeCnf]
    split_ifs <;> exact .other rfl SmEvent.noConfusion
  | alReadCnf c => exact counted_alReadCnfCb sm c
  | writeCyclCnf errortype =>
    rw [callback, writeCyclCnfCb]
    split_ifs <;> exact .other rfl SmEvent.noConfusion

/-! ### Jobs -/

/-- **One job** restarts the device, for the first time, or it does not, and then the counter is the
same or `DL_Mode_STARTUP` has set it to zero. -/
theorem handle_restarts (sm : Sm) (j : SmJob) :
    (sm.compRetry = 0 ∧ (sm.handle j).compRetry = 1 ∧ sm.raised j ≠ .dlModeStartup) ∨
      (((sm.handle j).state = .restartDevice → sm.state = .restartDevice) ∧
        ((sm.handle j).compRetry = sm.compRetry ∨
          sm.raised j = .dlModeStartup ∧ (sm.handle j).compRetry = 0)) := by
  have hcounted := counted_callback sm.newJob j
  have hprepared : (sm.prepared j).compRetry = sm.compRetry := hcounted.compRetry
  -- an event without a row changes nothing
  rcases hrow : sm.taken j with _ | t
  · refine .inr ⟨fun hs => ?_, .inl ?_⟩
    · rw [handle_state, hrow] at hs
      exact hs
    · rw [handle, event_of_none hrow, hprepared]
  · obtain ⟨hmem, hevent⟩ := mem_of_taken hrow
    have hhandle : (sm.handle j).compRetry =
        if t.action = .restartDevice then sm.compRetry + 1
        else if t.action = .readcomparameter ∧ sm.raised j = .dlModeStartup then 0
        else sm.compRetry := by
      rw [handle, event_of_row hrow, compRetry_perform, enter_compRetry, hprepared]
    obtain ⟨haction, hnext⟩ := restart_rows sm.state t hmem
    by_cases hrestart : t.action = .restartDevice
    · have hraised : sm.raised j = .retryStartup := hevent.symm.trans (haction hrestart)
      have hzero : sm.compRetry = 0 := hcounted.retry hraised
      refine .inl ⟨hzero, ?_, by rw [hraised]; exact SmEvent.noConfusion⟩
      rw [hhandle, if_pos hrestart, hzero]
      rfl
    · rw [if_neg hrestart] at hhandle
      refine .inr ⟨fun hs => ?_, ?_⟩
      · rw [handle_state, hrow] at hs
        exact (hnext hs).resolve_right fun h => hrestart h.2
      · split_ifs at hhandle with hstartup
        · exact .inr ⟨hstartup.2, hhandle⟩
        · exact .inl hhandle

/-! ### The checks -/

private theorem settles_checkvxy (hs : sm.state = .checkVxy) :
    Settles sm (sm.newJob.dlWriteCnfCheckvxy.1.event sm.newJob.dlWriteCnfCheckvxy.2).state := by
  have hs' : sm.newJob.state = .checkVxy := hs
  unfold dlWriteCnfCheckvxy
  split_ifs with hok hzero
  · rw [event_state, row, hs']
    exact .revision (fun h => hok.elim h.1 h.2) hs
  · rw [event_state, row, hs']
    exact .restart hzero
  · rw [fault, event_state, row, setError_state, hs']
    exact .fault

/-- The device fits. -/
private theorem not_deviceMismatch (h : sm.configParamlist.inspectionlevel = .noCheck ∨
    sm.configParamlist.vendorid = sm.realParamlist.vendorid ∧
      sm.configParamlist.deviceid = sm.realParamlist.deviceid) : ¬ sm.DeviceMismatch := by
  rintro ⟨hlevel, hids⟩
  obtain h | ⟨hv, hd⟩ := h
  · exact hlevel h
  · exact hids.elim (fun hne => hne hv) fun hne => hne hd

private theorem settles_doCheckComp {st : Sm} (hs : st.state = .checkComp) :
    Settles st (st.doCheckComp.1.event st.doCheckComp.2).state := by
  unfold doCheckComp
  dsimp only
  split_ifs with hcycle hlevel hvendor hdevice hretry
  · rw [fault, event_state, row, setError_state, hs]
    exact .fault
  · rw [event_state, row, hs]
    exact .device (not_deviceMismatch (.inl hlevel)) hs
  · rw [fault, event_state, row, setError_state, hs]
    exact .fault
  · rw [event_state, row, hs]
    exact .device (not_deviceMismatch (.inr ⟨not_not.mp hvendor, hdevice⟩)) hs
  · rw [event_state, row, hs]
    exact .restart hretry
  · rw [fault, event_state, row, setError_state, hs]
    exact .fault

private theorem settles_doCheckCompV10 {st : Sm} (hs : st.state = .checkCompV10) :
    Settles st (st.doCheckCompV10.1.event st.doCheckCompV10.2).state := by
  unfold doCheckCompV10
  dsimp only
  split_ifs with hcycle hlevel hids
  · rw [fault, event_state, row, setError_state, hs]
    exact .fault
  · rw [event_state, row, hs]
    exact .deviceV10 (not_deviceMismatch (.inl hlevel)) hs
  · rw [event_state, row, hs]
    exact .deviceV10 (not_deviceMismatch (.inr hids)) hs
  · rw [fault, event_state, row, setError_state, hs]
    exact .fault

/-- What a check looks at. -/
private theorem Settles.congr {st : Sm} {s : SmState} (h : Settles st s)
    (hstate : st.state = sm.state) (hconfig : st.configParamlist = sm.configParamlist)
    (hrevision : st.realParamlist.revisionid = sm.realParamlist.revisionid)
    (hvendor : st.realParamlist.vendorid = sm.realParamlist.vendorid)
    (hdevice : st.realParamlist.deviceid = sm.realParamlist.deviceid)
    (hretry : st.compRetry = sm.compRetry) : Settles sm s := by
  cases h with
  | revision h hs =>
    refine .revision ?_ (hstate ▸ hs)
    rwa [RevisionMismatch, ← hconfig, ← hrevision]
  | device h hs =>
    refine .device ?_ (hstate ▸ hs)
    rwa [DeviceMismatch, ← hconfig, ← hvendor, ← hdevice]
  | deviceV10 h hs =>
    refine .deviceV10 ?_ (hstate ▸ hs)
    rwa [DeviceMismatch, ← hconfig, ← hvendor, ← hdevice]
  | fault => exact .fault
  | restart h => exact .restart (hretry ▸ h)

/-- **The checks** end in acceptance, in a fault, or in the first restart. -/
theorem settles_handle (h : sm.ChecksDevice j) : Settles sm (sm.handle j).state := by
  cases j with
  | dlWriteCnf addr stat =>
    obtain ⟨rfl, hs⟩ := h
    have hcallback : sm.newJob.callback (.dlWriteCnf addr .noError) =
        sm.newJob.dlWriteCnfCheckvxy := by
      have hs' : sm.newJob.state = .checkVxy := hs
      rw [callback, dlWriteCnfCb, if_neg fun hno => hno rfl, hs']
    rw [handle_of_callback hcallback]
    exact settles_checkvxy hs
  | dlReadCnf addr value stat =>
    obtain ⟨rfl, rfl, hs⟩ := h
    obtain ⟨st, hst⟩ : ∃ st, st = sm.newJob.storePage dirParamaFid2 value := ⟨_, rfl⟩
    have hstate : st.state = sm.state := by rw [hst]; rfl
    have hcallback : sm.newJob.callback (.dlReadCnf dirParamaFid2 value .noError) =
        st.dlReadCnfCheckComp dirParamaFid2 := by
      rw [callback, dlReadCnfCb, if_neg fun hno => hno rfl, if_neg (by decide), ← hst, afterRead]
      obtain hs | hs := hs
      · rw [hstate, hs]
      · rw [hstate, hs]
    have hsettles : Settles st ((st.dlReadCnfCheckComp dirParamaFid2).1.event
        (st.dlReadCnfCheckComp dirParamaFid2).2).state := by
      rw [dlReadCnfCheckComp, if_neg fun hno => hno rfl]
      by_cases hv10 : st.state = .checkCompV10
      · rw [if_pos hv10]
        exact settles_doCheckCompV10 hv10
      · rw [if_neg hv10]
        exact settles_doCheckComp ((hstate ▸ hs).resolve_right hv10)
    rw [handle_of_callback hcallback]
    exact hsettles.congr hstate (by rw [hst]; rfl) (by rw [hst]; rfl) (by rw [hst]; rfl)
      (by rw [hst]; rfl) (by rw [hst]; rfl)
  | _ => exact h.elim

end Sm

/-! ### Runs -/

/-- What happens to System Management of a port. -/
inductive RestartInput
  | job (j : SmJob)
  /-- Another port writes `older_cycletime`. -/
  | otherPort (cycletime : Octet)

/-- System Management, with the number of times it has entered `RestartDevice` since the last
`DL_Mode_STARTUP`. -/
structure Restarts where
  sm : Sm := {}
  count : ℕ := 0

namespace Restarts

/-- The job leads into `RestartDevice`. -/
def Enters (sm : Sm) (j : SmJob) : Prop :=
  sm.state ≠ .restartDevice ∧ (sm.handle j).state = .restartDevice

instance (sm : Sm) (j : SmJob) : Decidable (Enters sm j) := inferInstanceAs (Decidable (_ ∧ _))

def step (s : Restarts) : RestartInput → Restarts
  | .job j =>
    { sm := s.sm.handle j
      count := (if s.sm.raised j = .dlModeStartup then 0 else s.count) +
        if Enters s.sm j then 1 else 0 }
  | .otherPort cycletime => { s with sm := s.sm.newJob.setOlder cycletime }

/-- At most one restart since the last `DL_Mode_STARTUP`, and what the next job can do. -/
structure RestartsOnce (s : Restarts) : Prop where
  once : s.count ≤ 1
  retry : s.sm.compRetry ≤ 1
  /-- `RestartDevice` is entered only when it has not been. -/
  enters : ∀ j, Enters s.sm j → s.count = 0
  /-- A check of the device ends in acceptance, in a fault or in the first restart. -/
  settles : ∀ j, s.sm.ChecksDevice j → s.sm.Settles (s.sm.handle j).state
  /-- After a restart, there is no other than acceptance and a fault. -/
  settled : ∀ j, s.sm.ChecksDevice j → s.count = 1 → (s.sm.handle j).state ≠ .restartDevice

/-- The counter of the source counts the restarts. -/
structure Inv (s : Restarts) : Prop where
  count : s.count ≤ s.sm.compRetry.toNat
  retry : s.sm.compRetry = 0 ∨ s.sm.compRetry = 1

variable {s : Restarts}

/-- A job that restarts the device finds the counter at zero. -/
private theorem retry_of_enters {sm : Sm} {j : SmJob} (h : Enters sm j) :
    sm.compRetry = 0 ∧ (sm.handle j).compRetry = 1 ∧ sm.raised j ≠ .dlModeStartup := by
  obtain hrestart | ⟨hstays, -⟩ := sm.handle_restarts j
  · exact hrestart
  · exact absurd (hstays h.2) h.1

/-- No restart has been counted. -/
private theorem Inv.zero (hs : Inv s) (h : s.sm.compRetry = 0) : s.count = 0 := by
  have hcount := hs.count
  rw [h] at hcount
  exact Nat.le_zero.mp hcount

/-- One step. -/
theorem Inv.step (hs : Inv s) (i : RestartInput) : Inv (step s i) := by
  cases i with
  | otherPort cycletime => exact ⟨hs.count, hs.retry⟩
  | job j =>
    by_cases henters : Enters s.sm j
    · obtain ⟨hzero, hone, hraised⟩ := retry_of_enters henters
      have hcount : s.count = 0 := hs.zero hzero
      refine ⟨?_, .inr hone⟩
      show (if s.sm.raised j = .dlModeStartup then 0 else s.count) +
        (if Enters s.sm j then 1 else 0) ≤ (s.sm.handle j).compRetry.toNat
      rw [if_neg hraised, if_pos henters, hcount, hone]
      decide
    · have hcount : (Restarts.step s (.job j)).count =
          if s.sm.raised j = .dlModeStartup then 0 else s.count := by
        show _ + (if Enters s.sm j then 1 else 0) = _
        rw [if_neg henters, Nat.add_zero]
      refine ⟨hcount ▸ ?_, ?_⟩
      · show _ ≤ (s.sm.handle j).compRetry.toNat
        obtain ⟨hzero, -, hraised⟩ | ⟨-, hsame | ⟨hraised, -⟩⟩ := s.sm.handle_restarts j
        · rw [if_neg hraised, hs.zero hzero]
          exact Nat.zero_le _
        · rw [hsame]
          split_ifs
          · exact Nat.zero_le _
          · exact hs.count
        · rw [if_pos hraised]
          exact Nat.zero_le _
      · show (s.sm.handle j).compRetry = 0 ∨ (s.sm.handle j).compRetry = 1
        obtain ⟨-, hone, -⟩ | ⟨-, hsame | ⟨-, hzero⟩⟩ := s.sm.handle_restarts j
        · exact .inr hone
        · exact hsame ▸ hs.retry
        · exact .inl hzero

/-- Every run. -/
theorem inv_run (is : List RestartInput) : Inv (Runs.run Restarts.step {} is) :=
  (Runs.reaches_run_true {} is).invariant Inv ⟨Nat.le_refl _, .inl rfl⟩ fun _ i hs _ => hs.step i

private theorem Inv.restartsOnce (hs : Inv s) : RestartsOnce s := by
  have henters : ∀ j, Enters s.sm j → s.count = 0 := fun j h =>
    hs.zero (retry_of_enters h).1
  refine ⟨?_, ?_, henters, fun j h => Sm.settles_handle h, fun j hchecks hone hs' => ?_⟩
  · obtain hretry | hretry := hs.retry
    · exact (hs.zero hretry).trans_le (Nat.zero_le 1)
    · have hcount := hs.count
      rw [hretry] at hcount
      exact hcount
  · obtain hretry | hretry := hs.retry <;> rw [hretry] <;> decide
  · have hother : s.sm.state ≠ .restartDevice := by
      cases j with
      | dlWriteCnf _ _ => exact fun h => SmState.noConfusion (hchecks.2.symm.trans h)
      | dlReadCnf _ _ _ =>
        obtain h | h := hchecks.2.2
        · exact fun h' => SmState.noConfusion (h.symm.trans h')
        · exact fun h' => SmState.noConfusion (h.symm.trans h')
      | _ => exact hchecks.elim
    have hzero := henters j ⟨hother, hs'⟩
    exact Nat.zero_ne_one (hzero.symm.trans hone)

/-- **A device is restarted at most once** between two events `DL_Mode_STARTUP`, whatever it answers
and in every order of jobs, and a mismatch that is found after that is a fault. -/
theorem restarts_once (is : List RestartInput) : (Runs.run step {} is).RestartsOnce :=
  (inv_run is).restartsOnce

end Restarts

end IolHat
