import IolHat.ApplicationLayer.Machine

/-!
# One service of the application layer

What a job of the application layer does in each state: an idle layer builds the service and asks
the data link layer for it (`Al.handle_isdu`, `Al.handle_argErr`), a waiting layer refuses it
(`Al.handle_busy`), and the confirmation of an ISDU ends it (`Al.handle_isduTransportCnf`). Whatever
the job, a read that is confirmed without data has failed (`Al.handle_nullsFail`).
-/

namespace IolHat

open Octets

namespace Al

variable {κ : Type} {al : Al κ}

/-- The layer with a service that has been built. -/
def built (al : Al κ) (r : AlRwReq κ) : Al κ :=
  (((al.newJob.modService ({ · with jobReq := some r })).enter .buildDlService).odBuildDlService).1

@[simp] theorem built_odState (r : AlRwReq κ) : (al.built r).odState = .buildDlService := by
  simp only [built, odBuildDlService, enter_service, modService_service, newJob_service]
  split_ifs <;> rfl

@[simp] theorem built_calls (r : AlRwReq κ) : (al.built r).calls = [] := by
  simp only [built, odBuildDlService, enter_service, modService_service, newJob_service]
  split_ifs <;> rfl

/-- The service that has been built. -/
theorem built_service (al : Al κ) (r : AlRwReq κ) (hr : requestEvent r ≠ .argErr) :
    (al.built r).service = serviceOf ({ al.service with jobReq := some r }) r := by
  simp only [built, odBuildDlService, enter_service, modService_service, newJob_service]
  rw [if_neg hr]
  rfl

/-- **An idle layer** builds the service, and goes on with the event of the request. -/
theorem handle_idle (h : al.odState = .onReqIdle) (r : AlRwReq κ) :
    al.handle (.service r) = (al.built r).odEvent (requestEvent r) := by
  have hrow : fsm.row (al.newJob.modService ({ · with jobReq := some r })) .service =
      some ⟨.service, .buildDlService, .odBuildDlService⟩ :=
    Fsm.Machine.row_of_state (M := fsm) h rfl
  obtain ⟨t, -, -, hne⟩ := build_row r
  exact Fsm.Machine.drive_of_row_next (M := fsm) hrow rfl hne

/-- **A service on an index from 2 on** becomes a request for an ISDU. -/
theorem handle_isdu (h : al.odState = .onReqIdle) {r : AlRwReq κ} {d : RwDirection}
    (hr : requestEvent r = match d with | .read => .isduRead | .write => .isduWrite) :
    (al.handle (.service r)).odState = .awaitDlIsduCnf ∧
      (al.handle (.service r)).service = serviceOf ({ al.service with jobReq := some r }) r ∧
      (al.handle (.service r)).calls = [.isduTransportReq
        ((serviceOf ({ al.service with jobReq := some r }) r).valuelist d)] := by
  have hne : requestEvent r ≠ .argErr := by
    rw [hr]
    cases d <;> nofun
  rw [handle_idle h, hr, ← built_service al r hne]
  cases d with
  | read =>
    have hrow : fsm.row (al.built r) .isduRead = some ⟨.isduRead, .awaitDlIsduCnf, .odIsduRead⟩ :=
      Fsm.Machine.row_of_state (M := fsm) (built_odState r) rfl
    rw [odEvent_of_row hrow (by decide)]
    simp [perform]
  | write =>
    have hrow : fsm.row (al.built r) .isduWrite =
        some ⟨.isduWrite, .awaitDlIsduCnf, .odIsduWrite⟩ :=
      Fsm.Machine.row_of_state (M := fsm) (built_odState r) rfl
    rw [odEvent_of_row hrow (by decide)]
    simp [perform]

/-- **A service without an address** is refused: there is no write service on index 0. -/
theorem handle_argErr (h : al.odState = .onReqIdle) {r : AlRwReq κ}
    (hr : requestEvent r = .argErr) :
    (al.handle (.service r)).odState = .onReqIdle ∧
      (al.handle (.service r)).calls = [.writeCnf r.callback SmiErrorType.appDev] := by
  obtain ⟨index, subindex, data, k, rfl⟩ :
      ∃ index subindex data k, r = .write index subindex data k := by
    cases r with
    | read => rw [requestEvent] at hr; split_ifs at hr
    | write => exact ⟨_, _, _, _, rfl⟩
  have hrow : fsm.row (al.built (.write index subindex data k)) .argErr =
      some ⟨.argErr, .onReqIdle, .odSendAlCnf⟩ :=
    Fsm.Machine.row_of_state (M := fsm) (built_odState _) rfl
  have hservice : (al.built (.write index subindex data k)).service =
      { serviceOf ({ al.service with jobReq := some (.write index subindex data k) })
        (.write index subindex data k) with errinfo := .parameterConflict } := by
    simp only [built, odBuildDlService, enter_service, modService_service, newJob_service]
    rw [if_pos hr]
    rfl
  rw [handle_idle h, hr, odEvent_of_row hrow (by decide)]
  simp only [perform, odSendAlCnf, negativeCnf, enter_service, hservice, serviceOf]
  refine ⟨rfl, ?_⟩
  simp [answer, hservice, serviceOf, AlService.errToErrortype, alStatusToErrortype,
    AlRwReq.callback]

/-- **A write of index 1** goes to the direct parameter page; only its first octet does. -/
theorem handle_write_1 (h : al.odState = .onReqIdle) (subindex : Octet) (data : List Octet)
    (k : κ) : (al.handle (.service (.write 1 subindex data k))).calls =
      [.writeParamReq 1 (data.take (UInt8.ofNat data.length).toNat).head?] := by
  have hrow : fsm.row (al.built (.write 1 subindex data k)) .paramWrite1 =
      some ⟨.paramWrite1, .awaitDlParamCnf, .odParamWrite⟩ :=
    Fsm.Machine.row_of_state (M := fsm) (built_odState _) rfl
  have hr : requestEvent (.write 1 subindex data k) = .paramWrite1 := rfl
  rw [handle_idle h, hr, odEvent_of_row hrow (by decide)]
  have hservice := built_service al (.write 1 subindex data k) nofun
  simp [perform, odParamWrite, hservice, serviceOf]

/-- The confirmation of a service that the layer is too busy for. -/
def busyCnf : AlRwReq κ → AlCall κ
  | .read _ _ k => .readCnf k 0 none SmiErrorType.serviceTempUnavailable
  | .write _ _ _ k => .writeCnf k SmiErrorType.serviceTempUnavailable

/-- **A waiting layer** refuses a service, and goes on waiting. -/
theorem handle_busy (h : al.odState = .awaitDlParamCnf ∨ al.odState = .awaitDlIsduCnf)
    (r : AlRwReq κ) :
    (al.handle (.service r)).odState = al.odState ∧
      (al.handle (.service r)).calls = [busyCnf r] := by
  have hrow : fsm.row (al.newJob.modService ({ · with jobReq := some r })) .service =
      some ⟨.service, al.odState, .odBusy⟩ := by
    obtain h | h := h
    · exact Fsm.Machine.row_of_state (M := fsm) h (by rw [h]; rfl)
    · exact Fsm.Machine.row_of_state (M := fsm) h (by rw [h]; rfl)
  rw [handle, readWriteCb, odEvent_of_row hrow (show Action.odBusy ≠ .odBuildDlService by decide)]
  cases r <;> exact ⟨rfl, rfl⟩

/-- A request of a waiting layer leaves its service as it is. -/
theorem handle_busy_service (h : al.odState = .awaitDlIsduCnf) (r : AlRwReq κ) :
    (al.handle (.service r)).service = { al.service with jobReq := some r } := by
  have hrow : fsm.row (al.newJob.modService ({ · with jobReq := some r })) .service =
      some ⟨.service, .awaitDlIsduCnf, .odBusy⟩ :=
    Fsm.Machine.row_of_state (M := fsm) h rfl
  rw [handle, readWriteCb, odEvent_of_row hrow (by decide)]
  cases r with
  | read => rfl
  | write => rfl

/-- The confirmation of a service carried by an ISDU. -/
def isduCnf (s : AlService κ) (k : κ) : AlCall κ :=
  match s.direction with
  | .read => .readCnf k s.dataLen (some s.dataRead) (s.errToErrortype true)
  | .write => .writeCnf k (s.errToErrortype true)

/-- **The confirmation of an ISDU** ends the service. -/
theorem handle_isduTransportCnf (h : al.odState = .awaitDlIsduCnf) {k : κ}
    (hk : al.service.callback = some k) (qualifier : Octet) (stat : Status) :
    (al.handle (.isduTransportCnf qualifier stat)).odState = .onReqIdle ∧
      (al.handle (.isduTransportCnf qualifier stat)).calls =
        [isduCnf (al.service.confirmed qualifier stat) k] := by
  have hrow : fsm.row (al.newJob.modService (·.confirmed qualifier stat)) .isdutransportCnf =
      some ⟨.isdutransportCnf, .onReqIdle, .odSendAlCnf⟩ :=
    Fsm.Machine.row_of_state (M := fsm) h rfl
  rw [handle, dlIsduTransportCnfCb, odEvent_of_row hrow (by decide)]
  simp only [perform, odSendAlCnf, enter_service, modService_service, newJob_service, isduCnf,
    AlService.confirmed_direction]
  cases al.service.direction with
  | read => exact ⟨rfl, by simp [answer, hk]⟩
  | write => exact ⟨rfl, by simp [answer, hk]⟩

/-- The service of an ISDU that is confirmed. -/
theorem handle_isduTransportCnf_service (h : al.odState = .awaitDlIsduCnf)
    (qualifier : Octet) (stat : Status) :
    (al.handle (.isduTransportCnf qualifier stat)).service =
      al.service.confirmed qualifier stat := by
  have hrow : fsm.row (al.newJob.modService (·.confirmed qualifier stat)) .isdutransportCnf =
      some ⟨.isdutransportCnf, .onReqIdle, .odSendAlCnf⟩ :=
    Fsm.Machine.row_of_state (M := fsm) h rfl
  rw [handle, dlIsduTransportCnfCb, odEvent_of_row hrow (by decide)]
  simp only [perform, odSendAlCnf, enter_service, modService_service, newJob_service]
  split
  · rfl
  · rfl

/-- An idle application layer does not look at a confirmation. -/
theorem handle_isduTransportCnf_idle (h : al.odState = .onReqIdle) (qualifier : Octet)
    (stat : Status) : (al.handle (.isduTransportCnf qualifier stat)).odState = .onReqIdle ∧
      (al.handle (.isduTransportCnf qualifier stat)).calls = [] := by
  have hrow : fsm.row (al.newJob.modService (·.confirmed qualifier stat)) .isdutransportCnf =
      none := by
    rw [row_eq, modService_odState, newJob_odState, h]
    rfl
  rw [handle, dlIsduTransportCnfCb, odEvent_of_none hrow]
  exact ⟨h, rfl⟩

/-- A write that the device has not answered fails with the error type of the status. -/
theorem errToErrortype_of_noService {s : AlService κ} (hd : s.direction = .write)
    (hq : s.qualifier = iserviceNoService) (he : s.errinfo ≠ .noError) :
    s.errToErrortype true = alStatusToErrortype s.errinfo := by
  have hneg : s.qualifier ≠ iserviceWriteResponseNeg := by
    rw [hq]
    decide
  have hpos : s.qualifier ≠ iserviceWriteResponsePos := by
    rw [hq]
    decide
  have hno : ¬ (s.qualifier = iserviceNoService ∧ s.errinfo = .noError) := fun h => he h.2
  rw [AlService.errToErrortype, AlService.isduErrortype, hd]
  by_cases hsum : s.errinfo = .isduChecksumError
  · rw [hsum]
    rfl
  · rw [if_neg hsum]
    simp only [if_neg hneg, if_neg hpos, if_neg hno]
    rfl

end Al

/-! ### Confirmations without data -/

/-- A read that is confirmed without data has no length, and has failed. -/
def AlCall.NullFails {κ : Type} : AlCall κ → Prop
  | .readCnf _ len none errortype => len = 0 ∧ errortype ≠ SmiErrorType.none
  | _ => True

namespace Al

variable {κ : Type} {al : Al κ}

/-- So it is for each call of the layer. -/
def NullsFail (al : Al κ) : Prop := ∀ c ∈ al.calls, c.NullFails

theorem NullsFail.call (h : al.NullsFail) {c : AlCall κ} (hc : c.NullFails) :
    (al.call c).NullsFail := by
  intro d hd
  rcases List.mem_append.mp hd with hd | hd
  · exact h d hd
  · rwa [List.mem_singleton.mp hd]

theorem NullsFail.answer (h : al.NullsFail) {c : κ → AlCall κ} (hc : ∀ k, (c k).NullFails) :
    (al.answer c).NullsFail := by
  rw [Al.answer]
  cases al.service.callback with
  | none => exact h.call trivial
  | some k => exact h.call (hc k)

/-- The event that abandons a service comes with an error. -/
def FailsOn (al : Al κ) (e : AlOdEvent) : Prop :=
  e = .abort ∨ e = .argErr → alStatusToErrortype al.service.errinfo ≠ SmiErrorType.none

private theorem failsOn_of_ne {e : AlOdEvent} (habort : e ≠ .abort) (harg : e ≠ .argErr) :
    al.FailsOn e := fun h => absurd h (not_or.mpr ⟨habort, harg⟩)

private theorem odSendAlCnf_nullsFail (h : al.NullsFail) {e : AlOdEvent} (he : al.FailsOn e) :
    (al.odSendAlCnf e).NullsFail := by
  have hnegative (hfails : alStatusToErrortype al.service.errinfo ≠ SmiErrorType.none) :
      al.negativeCnf.NullsFail := by
    have herr : al.service.errToErrortype false ≠ SmiErrorType.none := hfails
    rw [negativeCnf]
    cases al.service.direction with
    | read => exact h.answer fun _ => ⟨rfl, herr⟩
    | write => exact h.answer fun _ => trivial
  cases e
  case abort => exact hnegative (he (.inl rfl))
  case argErr => exact hnegative (he (.inr rfl))
  case isdutransportCnf =>
    rw [odSendAlCnf]
    cases al.service.direction with
    | read => exact h.answer fun _ => trivial
    | write => exact h.answer fun _ => trivial
  case readparamCnf => exact h.answer fun _ => trivial
  case writeparamCnf => exact h.answer fun _ => trivial
  all_goals exact h.call trivial

private theorem perform_nullsFail (h : al.NullsFail) {e : AlOdEvent} (he : al.FailsOn e)
    (a : Action) : (perform a al e).1.NullsFail := by
  cases a
  case odBusy =>
    rw [perform, odBusy]
    rcases al.service.jobReq with _ | _ | _
    · exact h.call trivial
    · exact h.call ⟨rfl, by decide⟩
    · exact h.call trivial
  case odBuildDlService =>
    rw [perform, odBuildDlService]
    cases al.service.jobReq with
    | none => exact h.call trivial
    | some r =>
      dsimp only
      split_ifs <;> exact h
  case odSendAlCnf => exact odSendAlCnf_nullsFail h he
  case odParamWrite =>
    rw [perform, odParamWrite]
    dsimp only
    split_ifs
    · exact h.call trivial
    · exact (h.call (c := .assertion) trivial).call trivial
  case odIsduRead => exact h.call trivial
  case odIsduWrite => exact h.call trivial
  case odParamRead => exact h.call trivial
  all_goals exact h

/-- A service that cannot be built is given its error. -/
private theorem odBuildDlService_failsOn (hjob : al.service.jobReq ≠ none) :
    al.odBuildDlService.1.FailsOn al.odBuildDlService.2 := by
  obtain ⟨r, hr⟩ := Option.ne_none_iff_exists'.mp hjob
  have hbuild : al.odBuildDlService =
      (if requestEvent r = .argErr then
        (al.modService (serviceOf · r)).modService ({ · with errinfo := .parameterConflict })
      else al.modService (serviceOf · r), requestEvent r) := by
    rw [odBuildDlService, hr]
  have habort : requestEvent r ≠ .abort := by
    cases r with
    | read =>
      rw [requestEvent]
      split_ifs <;> exact AlOdEvent.noConfusion
    | write =>
      rw [requestEvent]
      split_ifs <;> exact AlOdEvent.noConfusion
  rw [hbuild]
  intro he
  have hfails : alStatusToErrortype .parameterConflict ≠ SmiErrorType.none := by decide
  rwa [if_pos (he.resolve_left habort)]

/-- The loop of a job, from an event that keeps its word. -/
private theorem odEvent_nullsFail (h : al.NullsFail) {e : AlOdEvent} (he : al.FailsOn e)
    (hjob : e = .service → al.service.jobReq ≠ none) : (al.odEvent e).NullsFail := by
  refine Fsm.Machine.drive_rule (M := fsm) (Q := NullsFail)
    (P := fun al e => al.NullsFail ∧ al.FailsOn e ∧ (e = .service → al.service.jobReq ≠ none))
    (fun al e _ hal => hal.1) (fun al e t _ hal _ => ?_) (fun al e t hrow hal hidle => ?_)
    ⟨h, he, hjob⟩
  · exact perform_nullsFail (show (al.enter t.next).NullsFail from hal.1) hal.2.1 t.action
  · have hbuild : t.action = .odBuildDlService := by
      by_contra ha
      exact hidle (perform_event ha _ _)
    obtain ⟨hmem, hevent⟩ := Fsm.Machine.mem_of_row hrow
    have hservice : e = .service := hevent ▸ (build_rows _ t hmem hbuild).2
    have hround : fsm.round t al e = (al.enter t.next).odBuildDlService := by
      show perform t.action (al.enter t.next) e = _
      rw [hbuild, perform]
    have hnext : (al.enter t.next).NullsFail := hal.1
    refine ⟨perform_nullsFail hnext hal.2.1 t.action, ?_, fun h => ?_⟩
    · rw [hround]
      exact odBuildDlService_failsOn (hal.2.2 hservice)
    · rw [hround] at h
      exact absurd h (odBuildDlService_ne_service _)

/-- **The layer never confirms a success without data**, and gives no length without data. -/
theorem handle_nullsFail (al : Al κ) (j : AlJob κ) : (al.handle j).NullsFail := by
  have hnew (f : AlService κ → AlService κ) : (al.newJob.modService f).NullsFail :=
    fun c hc => absurd hc List.not_mem_nil
  cases j with
  | service r =>
    rw [handle, readWriteCb]
    exact odEvent_nullsFail (hnew _) (failsOn_of_ne nofun nofun) fun _ => nofun
  | readParamCnf value stat =>
    rw [handle, dlReadparamCnfCb]
    refine odEvent_nullsFail ?_ (failsOn_of_ne nofun nofun) nofun
    have hoverrun : (al.newJob.call .overrun).NullsFail := (hnew id).call trivial
    split_ifs
    · exact hnew _
    · exact hoverrun
  | writeParamCnf stat =>
    rw [handle, dlWriteparamCnfCb]
    exact odEvent_nullsFail (hnew _) (failsOn_of_ne nofun nofun) nofun
  | isduTransportCnf qualifier stat =>
    rw [handle, dlIsduTransportCnfCb]
    exact odEvent_nullsFail (hnew _) (failsOn_of_ne nofun nofun) nofun
  | abort =>
    have hfails : alStatusToErrortype .isduAbort ≠ SmiErrorType.none := by decide
    rw [handle, abortCb]
    refine odEvent_nullsFail (hnew _) (fun _ => hfails) fun h => ?_
    split_ifs at h

end Al

end IolHat
