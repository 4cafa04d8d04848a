import IolHat.DataStorage.Upload

/-!
# When Data Storage may run

Whether parameters are uploaded or downloaded is a matter of the port configuration: `DS_Init`
brings it, and its flags decide what the next start-up does. A run is therefore watched together
with the last configuration that has arrived (`Governed`), and the requests that begin an upload
or a download are compared with it.

`ds_enable` is set by a configuration with backup or restore and not cleared by any other, and
`DS_EVENT_INIT` has no row in the states of a running upload or download. `TakesEffect` excludes
both; `storage_runs_only_configured` says that nothing else can make Data Storage run without having
been configured.
-/

namespace IolHat

/-- The port configuration uses Data Storage. -/
def PortConfigList.UsesStorage (cfg : PortConfigList) : Prop :=
  cfg.portmode = .iolMan ∧
    (cfg.validationBackup = .v11BakRestore ∨ cfg.validationBackup = .v11Restore)

instance (cfg : PortConfigList) : Decidable cfg.UsesStorage := inferInstanceAs (Decidable (_ ∧ _))

namespace Ds

/-! ### Requests -/

/-- The calls ask the device to take a Data Storage command. -/
def WritesCommand (ds : Ds) : Prop :=
  .alWriteReq dsParamIndex dsParamSubindexCmd .command ∈ ds.calls

instance (ds : Ds) : Decidable ds.WritesCommand := inferInstanceAs (Decidable (_ ∈ _))

/-- The current job has requested a command. -/
def Requests (ds : Ds) (cmd : DsCommand) : Prop := ds.WritesCommand ∧ ds.command = cmd

instance (ds : Ds) (cmd : DsCommand) : Decidable (ds.Requests cmd) :=
  inferInstanceAs (Decidable (_ ∧ _))

/-- The flags that `DS_Init` sets up. -/
def flags (ds : Ds) : Bool × Bool × Bool := (ds.dsEnable, ds.dsUpload, ds.dsDownload)

/-! ### The states in which nothing runs -/

/-- Data Storage is off, or has not been configured yet. -/
def Inactive (ds : Ds) : Prop := ds.state = .checkActivationState ∨ ds.state = .off

/-- Nothing runs, and the current job has requested nothing. -/
structure Rests (ds : Ds) : Prop where
  inactive : ds.Inactive
  silent : ¬ ds.WritesCommand

private theorem fresh_rests {ds : Ds} (h : ds.Inactive) : ds.fresh.Rests := ⟨h, List.not_mem_nil⟩

/-- A row of these states that leads to one of them and requests nothing. -/
private theorem rests_of_row {ds ds' : Ds} {e : DsEvent}
    {t : Fsm.Transition DsState DsEvent Action} (hrow : fsm.row ds e = some t)
    (hround : fsm.round t ds e = (ds', .none)) (h : ds'.Rests) : (ds.event e).Rests := by
  have hevent : ds.event e = ds' := Fsm.Machine.drive_of_row_idle hrow hround
  rw [hevent]
  exact h

private theorem event_comErr_rests {ds : Ds} (h : ds.Rests) : (ds.event .comErr).Rests := by
  have hdrop : ds.event .comErr = ds := by
    rcases h.inactive with hs | hs <;> exact event_dropped hs rfl
  rwa [hdrop]

private theorem event_startup_rests {ds : Ds} (h : ds.Rests) : (ds.event .startup).Rests := by
  rcases h.inactive with hs | hs
  · rwa [event_dropped hs rfl]
  · refine rests_of_row (Fsm.Machine.row_of_state hs rfl) rfl ⟨.inr rfl, ?_⟩
    rintro hmem
    rcases List.mem_append.mp hmem with hmem | hmem
    · exact h.silent hmem
    · cases List.mem_singleton.mp hmem

private theorem event_upload_rests {ds : Ds} (h : ds.Rests) : (ds.event .upload).Rests := by
  rcases h.inactive with hs | hs
  · rwa [event_dropped hs rfl]
  · exact rests_of_row (Fsm.Machine.row_of_state hs rfl) rfl ⟨.inr rfl, h.silent⟩

private theorem event_delete_rests {ds : Ds} (h : ds.Rests) : (ds.event .delete).Rests := by
  rcases h.inactive with hs | hs
  · exact rests_of_row (Fsm.Machine.row_of_state hs rfl) rfl ⟨.inl rfl, h.silent⟩
  · exact rests_of_row (Fsm.Machine.row_of_state hs rfl) rfl ⟨.inr rfl, h.silent⟩

private theorem smiParServToDsReq_rests {ds : Ds} (h : ds.Rests) (exp : ArgBlockId)
    (argBlockLen : ℕ) (block : ArgBlockDsData) :
    (ds.smiParServToDsReq exp argBlockLen block).Rests := by
  have hcall (ds' : Ds) (c : DsCall WriteData) (h' : ds'.Rests)
      (hc : c ≠ .alWriteReq dsParamIndex dsParamSubindexCmd .command) : (ds'.call c).Rests := by
    refine ⟨h'.inactive, fun hmem => ?_⟩
    rcases List.mem_append.mp hmem with hmem | hmem
    · exact h'.silent hmem
    · exact hc (List.mem_singleton.mp hmem).symm
  have hmaster (f : MasterDs → MasterDs) : (ds.modMaster f).Rests := ⟨h.inactive, h.silent⟩
  rw [smiParServToDsReq]
  split_ifs
  · exact hcall _ _ h (by rintro ⟨⟩)
  · exact hcall _ _ h (by rintro ⟨⟩)
  · exact hcall _ _ (hmaster _) (by rintro ⟨⟩)

/-- In these states no job starts anything. -/
theorem step_inactive {ds : Ds} (h : ds.Inactive) (i : DsInput) (hinit : ∀ cfg, i ≠ .init cfg) :
    (ds.step i).Rests := by
  have hfresh := fresh_rests h
  have hstate : ds.fresh.Inactive := h
  cases i with
  | readCnf c =>
    show (ds.fresh.readCnfCb c).Rests
    by_cases hcom : c.errortype = SmiErrorType.comErr
    · rw [readCnfCb, if_pos hcom]
      exact event_comErr_rests hfresh
    · rcases hstate with hs | hs <;> simpa only [readCnfCb, if_neg hcom, hs] using hfresh
  | writeCnf errortype =>
    show (ds.fresh.writeCnfCb errortype).Rests
    by_cases herr : errortype ≠ SmiErrorType.none
    · rw [writeCnfCb, if_pos herr]
      exact event_comErr_rests hfresh
    · rcases hstate with hs | hs <;> simpa only [writeCnfCb, if_neg herr, hs] using hfresh
  | startup => exact event_startup_rests hfresh
  | delete => exact event_delete_rests hfresh
  | init cfg => exact absurd rfl (hinit cfg)
  | upload => exact event_upload_rests hfresh
  | parServToDs exp argBlockLen block => exact smiParServToDsReq_rests hfresh exp argBlockLen block
  | portInfo id => exact ⟨h, List.not_mem_nil⟩
  | setModeType11 => exact ⟨h, List.not_mem_nil⟩

/-! ### Downloads -/

/-- A download is only requested while `ds_download` is set. -/
def DownloadsAllowed (ds : Ds) : Prop := ds.Requests .dlStart → ds.dsDownload = true

private theorem fresh_allowed (ds : Ds) : ds.fresh.DownloadsAllowed :=
  fun h => absurd h.1 List.not_mem_nil

private theorem call_allowed {ds : Ds} {c : DsCall WriteData} (h : ds.DownloadsAllowed)
    (hc : c ≠ .alWriteReq dsParamIndex dsParamSubindexCmd .command) :
    (ds.call c).DownloadsAllowed := by
  rintro ⟨hmem, hcmd⟩
  rcases List.mem_append.mp hmem with hmem | hmem
  · exact h ⟨hmem, hcmd⟩
  · exact absurd (List.mem_singleton.mp hmem).symm hc

private theorem alWriteDsCmdReq_allowed (ds : Ds) {cmd : DsCommand} (hcmd : cmd ≠ .dlStart) :
    (ds.alWriteDsCmdReq cmd).DownloadsAllowed := fun h => absurd h.2 hcmd

private theorem perform_allowed {a : Action} {ds : Ds} (e : DsEvent) (h : ds.DownloadsAllowed)
    (hdl : a = .initDl → ds.dsDownload = true) : (perform a ds e).1.DownloadsAllowed := by
  cases a
  -- A download is only begun by its own action; every other call is one of an upload or of neither.
  case initDl => exact fun _ => hdl rfl
  case todo => exact call_allowed h (by rintro ⟨⟩)
  case ready => exact call_allowed h (by rintro ⟨⟩)
  case readparam => exact call_allowed h (by rintro ⟨⟩)
  case writeParam => exact call_allowed h (by simp)
  case dlDone => exact alWriteDsCmdReq_allowed _ (by decide)
  case fault =>
    cases e
    case faultId => exact call_allowed h (by rintro ⟨⟩)
    case faultSize => exact call_allowed h (by rintro ⟨⟩)
    case faultLock => exact call_allowed h (by rintro ⟨⟩)
    case faultUl => exact alWriteDsCmdReq_allowed _ (by decide)
    case faultDl => exact alWriteDsCmdReq_allowed _ (by decide)
    all_goals exact h
  case off =>
    cases e
    case startup => exact call_allowed h (by rintro ⟨⟩)
    all_goals exact h
  case upload =>
    cases e
    case readDone =>
      simp only [perform, uploadAction]
      split_ifs
      · exact h
      · exact call_allowed h (by rintro ⟨⟩)
    all_goals exact h
  case chkId =>
    simp only [perform, chkId]
    split_ifs
    · exact call_allowed h (by rintro ⟨⟩)
    · exact h
  case chkMemSize =>
    simp only [perform, chkMemSize]
    split_ifs
    · exact h
    · exact call_allowed h (by rintro ⟨⟩)
  case chkUpload =>
    simp only [perform, chkUpload]
    split_ifs
    · exact h
    · exact alWriteDsCmdReq_allowed _ (by decide)
    · exact call_allowed h (by rintro ⟨⟩)
  case chkValidity =>
    simp only [perform, chkValidity]
    split_ifs
    · exact h
    · exact alWriteDsCmdReq_allowed _ (by decide)
  case chkCsum =>
    simp only [perform, chkCsum]
    split_ifs <;> exact h
  case decomposeSet =>
    simp only [perform, decomposeSet]
    split_ifs <;> exact h
  all_goals exact h

/-- `CheckChecksum` is only entered with its check, and only left for a download with
`DS_CMD_DL_START`. -/
private theorem rows_of_download : ∀ s, ∀ t ∈ transitions s,
    (t.next = .checkChecksum → t.action = .chkCsum) ∧
      (t.action = .initDl → s = .checkChecksum ∧ t.event = .download) := by
  intro s
  cases s <;> decide

private theorem chkCsum_download {ds : Ds} (h : ds.chkCsum.2 = .download) :
    ds.chkCsum.1.dsDownload = true := by
  rw [chkCsum] at h ⊢
  split_ifs at h ⊢ with hcs
  exact hcs.1

private theorem event_allowed {ds : Ds} {e : DsEvent} (h : ds.DownloadsAllowed)
    (he : ds.state = .checkChecksum → e ≠ .download) : (ds.event e).DownloadsAllowed := by
  -- the event of a round may only be a download in `CheckChecksum` when the flag is set
  have hround {c : Ds} {e : DsEvent} {t : Fsm.Transition DsState DsEvent Action}
      (hrow : fsm.row c e = some t)
      (hc : c.DownloadsAllowed ∧ (c.state = .checkChecksum → e = .download → c.dsDownload = true)) :
      (fsm.round t c e).1.DownloadsAllowed := by
    obtain ⟨hmem, rfl⟩ := Fsm.Machine.mem_of_row hrow
    refine perform_allowed t.event hc.1 fun hact => ?_
    obtain ⟨hs, hev⟩ := (rows_of_download _ t hmem).2 hact
    exact hc.2 hs hev
  refine Fsm.Machine.drive_rule (M := fsm) (Q := DownloadsAllowed)
    (P := fun c e => c.DownloadsAllowed ∧
      (c.state = .checkChecksum → e = .download → c.dsDownload = true))
    (fun c e _ hc => hc.1) (fun c e t hrow hc _ => hround hrow hc) (fun c e t hrow hc _ => ?_)
    ⟨h, fun hs hev => absurd hev (he hs)⟩
  refine ⟨hround hrow hc, fun hs hev => ?_⟩
  have hmem := (Fsm.Machine.mem_of_row hrow).1
  have hnext : t.next = .checkChecksum := (perform_state _ _ _).symm.trans hs
  have hact := (rows_of_download _ t hmem).1 hnext
  have hcsum : fsm.round t c e = (c.enter t.next).chkCsum := by
    show perform t.action (c.enter t.next) e = _
    rw [hact]
    rfl
  rw [hcsum] at hev ⊢
  exact chkCsum_download hev

private theorem event_allowed_of_ne {ds : Ds} {e : DsEvent} (h : ds.DownloadsAllowed)
    (he : e ≠ .download) : (ds.event e).DownloadsAllowed := event_allowed h fun _ => he

private theorem readChecksum_allowed {ds : Ds} (h : ds.DownloadsAllowed) (c : ReadCnf)
    {g : Ds → Ds} (hg : ∀ ds : Ds, ds.DownloadsAllowed → (g ds).DownloadsAllowed) :
    (ds.readChecksum c g).DownloadsAllowed := by
  have hshort : (if c.len < 4 then ds.event .comErr else ds).DownloadsAllowed := by
    split_ifs
    · exact event_allowed_of_ne h (by decide)
    · exact h
  exact follow_rule (call_allowed hshort (by rintro ⟨⟩)) fun _ => hg _ hshort

private theorem readCnfCb_allowed {ds : Ds} (h : ds.DownloadsAllowed) (c : ReadCnf) :
    (ds.readCnfCb c).DownloadsAllowed := by
  by_cases hcom : c.errortype = SmiErrorType.comErr
  · rw [readCnfCb, if_pos hcom]
    exact event_allowed_of_ne h (by decide)
  rw [readCnfCb, if_neg hcom]
  have hnull : (ds.call .nullPointer).DownloadsAllowed := call_allowed h (by rintro ⟨⟩)
  cases ds.state
  case checkIdentity =>
    dsimp only
    split_ifs
    · exact event_allowed_of_ne h (by decide)
    · exact follow_rule hnull fun _ => event_allowed_of_ne h (by decide)
  case checkMemSize =>
    dsimp only
    split_ifs
    · exact event_allowed_of_ne h (by decide)
    · exact follow_rule hnull fun _ => event_allowed_of_ne h (by decide)
  case readParameter =>
    dsimp only
    split_ifs
    · exact event_allowed_of_ne h (by decide)
    · exact follow_rule hnull fun _ => event_allowed_of_ne h (by decide)
    · refine event_allowed_of_ne ?_ (by decide)
      rw [storeParam]
      split_ifs <;> exact h
  case checkUpload =>
    exact readChecksum_allowed h c fun ds h => event_allowed_of_ne h (by decide)
  case storeDataSet =>
    exact readChecksum_allowed h c fun ds _ => alWriteDsCmdReq_allowed ds (by decide)
  case downloadDone =>
    exact readChecksum_allowed h c fun ds h => event_allowed_of_ne h (by decide)
  all_goals exact h

private theorem writeCnfCb_allowed {ds : Ds} (h : ds.DownloadsAllowed) (errortype : SmiErrorType) :
    (ds.writeCnfCb errortype).DownloadsAllowed := by
  by_cases herr : errortype ≠ SmiErrorType.none
  · rw [writeCnfCb, if_pos herr]
    exact event_allowed_of_ne h (by decide)
  rw [writeCnfCb, if_neg herr]
  cases hs : ds.state
  case decomposeSet => exact event_allowed h fun hs' => by rw [hs] at hs'; cases hs'
  case checkUpload => exact event_allowed_of_ne h (by decide)
  case checkDsValidity => exact event_allowed_of_ne h (by decide)
  case writeParameter => exact event_allowed_of_ne h (by decide)
  case storeDataSet =>
    refine event_allowed_of_ne ?_ (by decide)
    exact h
  case downloadDone => exact call_allowed h (by rintro ⟨⟩)
  case dsFault =>
    refine event_allowed_of_ne ?_ (by decide)
    exact call_allowed h (by rintro ⟨⟩)
  all_goals exact h

/-- Whatever the job, a download is only requested while `ds_download` is set. -/
theorem step_downloadsAllowed (ds : Ds) (i : DsInput) : (ds.step i).DownloadsAllowed := by
  have hfresh := fresh_allowed ds
  cases i with
  | readCnf c => exact readCnfCb_allowed hfresh c
  | writeCnf errortype => exact writeCnfCb_allowed hfresh errortype
  | startup => exact event_allowed_of_ne hfresh (by decide)
  | delete => exact event_allowed_of_ne hfresh (by decide)
  | init cfg =>
    refine event_allowed_of_ne ?_ (by decide)
    exact fun h => absurd h.1 List.not_mem_nil
  | upload => exact event_allowed_of_ne hfresh (by decide)
  | parServToDs exp argBlockLen block =>
    show (ds.fresh.smiParServToDsReq exp argBlockLen block).DownloadsAllowed
    rw [smiParServToDsReq]
    split_ifs <;> exact call_allowed hfresh (by rintro ⟨⟩)
  | portInfo id => exact fun h => absurd h.1 List.not_mem_nil
  | setModeType11 => exact fun h => absurd h.1 List.not_mem_nil

/-! ### Configurations -/

/-- `DS_EVENT_INIT` has a row in the state. -/
def AcceptsInit (ds : Ds) : Prop := (Fsm.lookup (transitions ds.state) .init).isSome = true

instance (ds : Ds) : Decidable ds.AcceptsInit := inferInstanceAs (Decidable (_ = true))

/-- The machine starts over as `ds_enable` says. -/
theorem event_init {ds : Ds} (h : ds.AcceptsInit) :
    ds.event .init =
      (ds.enter .checkActivationState).enter
        (if ds.dsEnable then .waitingOnDsActivity else .off) := by
  have hrow : fsm.row ds .init = some ⟨.init, .checkActivationState, .reinit⟩ := by
    rw [AcceptsInit] at h
    show Fsm.lookup (transitions ds.state) .init = _
    revert h
    cases ds.state <;> decide
  have hnext : fsm.round ⟨.init, .checkActivationState, .reinit⟩ ds .init =
      (ds.enter .checkActivationState, if ds.dsEnable then .enable else .clrDisa) := rfl
  cases hen : ds.dsEnable with
  | true =>
    rw [hen] at hnext
    exact Fsm.Machine.drive_of_rows hrow hnext (by decide) (Fsm.Machine.row_of_state rfl rfl) rfl
  | false =>
    rw [hen] at hnext
    exact Fsm.Machine.drive_of_rows hrow hnext (by decide) (Fsm.Machine.row_of_state rfl rfl) rfl

/-- Otherwise the event is dropped. -/
theorem event_init_dropped {ds : Ds} (h : ¬ ds.AcceptsInit) : ds.event .init = ds := by
  refine event_dropped rfl ?_
  rw [AcceptsInit, Bool.not_eq_true, Option.isSome_eq_false_iff, Option.isNone_iff_eq_none] at h
  exact h

/-- What `DS_Init` leaves: no calls, and flags of which only `ds_enable` remembers earlier
configurations. -/
theorem step_init (ds : Ds) (cfg : PortConfigList) :
    (ds.step (.init cfg)).calls = [] ∧
      (ds.step (.init cfg)).flags =
        (ds.dsEnable || decide cfg.UsesStorage,
          decide (cfg.portmode = .iolMan ∧ cfg.validationBackup = .v11BakRestore),
          decide cfg.UsesStorage) := by
  have hstep : ds.step (.init cfg) = (ds.fresh.configure cfg).event .init := rfl
  by_cases haccept : (ds.fresh.configure cfg).AcceptsInit
  · rw [hstep, event_init haccept]
    exact ⟨rfl, rfl⟩
  · rw [hstep, event_init_dropped haccept]
    exact ⟨rfl, rfl⟩

end Ds

/-! ### Runs with their last configuration -/

/-- The layer, watched together with the last configuration that `DS_Init` has brought. -/
structure Governed where
  ds : Ds := {}
  last : Option PortConfigList := none

namespace Governed

/-- One input. -/
def step (g : Governed) (i : DsInput) : Governed where
  ds := g.ds.step i
  last := match i with
    | .init cfg => some cfg
    | _ => g.last

/-- The last configuration uses Data Storage. -/
def UsesStorage (g : Governed) : Prop := ∃ cfg ∈ g.last, cfg.UsesStorage

instance (g : Governed) : Decidable g.UsesStorage := inferInstanceAs (Decidable (∃ cfg ∈ _, _))

/-- Uploads and downloads are only begun when the last configuration asks for them, and the flags
that `DS_Init` leaves are those it leaves on a fresh layer. -/
structure Obeys (g : Governed) (i : DsInput) : Prop where
  upload : (g.step i).ds.Requests .ulStart → (g.step i).UsesStorage
  download : (g.step i).ds.Requests .dlStart →
    (g.step i).UsesStorage ∧ (g.step i).ds.dsDownload = true
  flags : ∀ cfg, i = .init cfg → (g.step i).ds.flags = (Ds.step {} (.init cfg)).flags

/-- A configuration without Data Storage arrives while `ds_enable` is clear, in a state that takes
`DS_EVENT_INIT`. -/
def TakesEffect (g : Governed) : DsInput → Prop
  | .init cfg => cfg.UsesStorage ∨ g.ds.dsEnable = false ∧ g.ds.AcceptsInit
  | _ => True

instance (g : Governed) : (i : DsInput) → Decidable (g.TakesEffect i)
  | .init cfg => inferInstanceAs (Decidable (cfg.UsesStorage ∨ _ ∧ _))
  | .readCnf _ | .writeCnf _ | .startup | .delete | .upload | .parServToDs .. | .portInfo _
  | .setModeType11 => inferInstanceAs (Decidable True)

/-- What is enabled or running, the last configuration has asked for. -/
structure Sound (g : Governed) : Prop where
  enabled : g.ds.dsEnable = true → g.UsesStorage
  active : g.ds.Inactive ∨ g.UsesStorage
  download : g.ds.dsDownload = true → g.UsesStorage

theorem step_last {g : Governed} {i : DsInput} (hinit : ∀ cfg, i ≠ .init cfg) :
    (g.step i).UsesStorage ↔ g.UsesStorage := by
  cases i with
  | init cfg => exact absurd rfl (hinit cfg)
  | _ => exact Iff.rfl

theorem usesStorage_init {g : Governed} {cfg : PortConfigList} :
    (g.step (.init cfg)).UsesStorage ↔ cfg.UsesStorage := by
  simp [UsesStorage, step]

/-- A configuration keeps the layer sound. -/
private theorem sound_init {g : Governed} {cfg : PortConfigList}
    (hi : cfg.UsesStorage ∨ g.ds.dsEnable = false ∧ g.ds.AcceptsInit) :
    (g.step (.init cfg)).Sound := by
  by_cases huses : cfg.UsesStorage
  · have h := usesStorage_init (g := g).mpr huses
    exact ⟨fun _ => h, .inr h, fun _ => h⟩
  · obtain ⟨hen, haccept⟩ := hi.resolve_left huses
    have hclear : (g.ds.fresh.configure cfg).dsEnable = false := by
      show (g.ds.dsEnable || decide cfg.UsesStorage) = false
      rw [hen, decide_eq_false huses]
      rfl
    have haccept' : (g.ds.fresh.configure cfg).AcceptsInit := haccept
    -- the machine goes to `Off`
    have hstep : (g.step (.init cfg)).ds =
        ((g.ds.fresh.configure cfg).enter .checkActivationState).enter .off := by
      show (g.ds.fresh.configure cfg).event .init = _
      rw [Ds.event_init haccept', hclear]
      rfl
    have hdown : (g.ds.fresh.configure cfg).dsDownload = false := decide_eq_false huses
    refine ⟨?_, ?_, ?_⟩
    · rw [hstep]
      exact fun h => absurd (hclear.symm.trans h) (by decide)
    · rw [hstep]
      exact .inl (.inr rfl)
    · rw [hstep]
      exact fun h => absurd (hdown.symm.trans h) (by decide)

/-- Every other input keeps the layer sound. -/
theorem Sound.step {g : Governed} (h : g.Sound) (i : DsInput) (hi : g.TakesEffect i) :
    (g.step i).Sound := by
  by_cases hinit : ∃ cfg, i = .init cfg
  · obtain ⟨cfg, rfl⟩ := hinit
    exact sound_init hi
  · have hinit : ∀ cfg, i ≠ .init cfg := fun cfg heq => hinit ⟨cfg, heq⟩
    have hkept : g.ds.Kept (g.step i).ds := g.ds.step_kept i hinit
    refine ⟨fun hen => ?_, ?_, fun hdown => ?_⟩
    · exact (step_last hinit).mpr (h.enabled (hkept.dsEnable hen))
    · rcases h.active with hin | huses
      · exact .inl (Ds.step_inactive hin i hinit).inactive
      · exact .inr ((step_last hinit).mpr huses)
    · rw [hkept.dsDownload] at hdown
      exact (step_last hinit).mpr (h.download hdown)

/-- **Data Storage runs only when configured.** In a run whose configurations all take effect,
uploads and downloads are begun only under a configuration that uses Data Storage, and `DS_Init`
leaves the same flags whatever came before. -/
theorem storage_runs_only_configured {g : Governed}
    (h : Runs.Reaches Governed.step Governed.TakesEffect {} g) {i : DsInput}
    (hi : g.TakesEffect i) : g.Obeys i := by
  have hsound : g.Sound :=
    h.invariant Governed.Sound ⟨by rintro ⟨⟩, .inl (.inl rfl), by rintro ⟨⟩⟩
      fun _ i h hi => h.step i hi
  have hafter := hsound.step i hi
  have hrequest (hwrites : (g.step i).ds.WritesCommand) : (g.step i).UsesStorage := by
    by_cases hinit : ∃ cfg, i = .init cfg
    · obtain ⟨cfg, rfl⟩ := hinit
      have hnone : (g.step (.init cfg)).ds.calls = [] := (g.ds.step_init cfg).1
      rw [Ds.WritesCommand, hnone] at hwrites
      cases hwrites
    · have hinit : ∀ cfg, i ≠ .init cfg := fun cfg heq => hinit ⟨cfg, heq⟩
      refine (step_last hinit).mpr (hsound.active.resolve_left fun hin => ?_)
      exact (Ds.step_inactive hin i hinit).silent hwrites
  refine ⟨fun hul => hrequest hul.1, fun hdl => ⟨hrequest hdl.1, ?_⟩, ?_⟩
  · exact g.ds.step_downloadsAllowed i hdl
  · rintro cfg rfl
    have hflags : (g.step (.init cfg)).ds.flags = _ := (g.ds.step_init cfg).2
    rw [hflags, (Ds.step_init {} cfg).2]
    rcases hi with huses | ⟨hen, -⟩
    · simp [huses]
    · rw [hen]

/-- A device starts up under backup and restore, and tells that it wants an upload. -/
def startWithStorage : List DsInput :=
  [.init { portmode := .iolMan, validationBackup := .v11BakRestore }, .startup,
   .readCnf (Ds.wordValue 8 0)]

/-- The device's upload request is followed in a run whose configuration takes effect. -/
theorem storage_runs_when_configured :
    (Runs.run Governed.step {} startWithStorage).Obeys (.readCnf (.ofOctet 0x80)) ∧
      ((Runs.run Governed.step {} startWithStorage).step (.readCnf (.ofOctet 0x80))).ds.Requests
        .ulStart :=
  ⟨storage_runs_only_configured (Runs.reaches_run (by decide +kernel)) trivial, by decide +kernel⟩

/-- The port is configured with backup and restore and then without Data Storage, and a device
starts up. -/
def startWithoutStorage : List DsInput :=
  [.init { portmode := .iolMan, validationBackup := .v11BakRestore },
   .init { portmode := .iolMan, validationBackup := .v11 }, .startup,
   .readCnf (Ds.wordValue 8 0), .readCnf (.ofOctet 0)]

/-- **An upload without Data Storage.** The earlier configuration has left `ds_enable` set, and no
set is stored: the answer to the checksum makes the machine begin an upload. -/
theorem upload_without_storage :
    ¬ (Runs.run Governed.step {} startWithoutStorage).Obeys (.readCnf (Ds.wordValue 0 1)) := by
  intro h
  exact absurd (h.upload (by decide +kernel)) (by decide +kernel)

end Governed

end IolHat
