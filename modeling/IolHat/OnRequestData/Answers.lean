import IolHat.OnRequestData.Machine
import IolHat.Lib.Ledger
import IolHat.Lib.Run

/-!
# Is every on-request service answered?

The layer, the application's requests and the application layer that executes them are put
together in `OdeSys`. The application may send any request at any time, start and stop of the
layer come when they like, and the application layer confirms what it has been asked, in any order
and with any result.

`Answered` is the guarantee: every request that has been accepted is either still executed or
answered exactly once, and its answer is made from its own confirmation. It fails when the layer
is stopped while it waits (`stopped_request_is_never_answered`): the confirmation then finds
nobody waiting. `answered_of_reaches` shows that this is the only way: in every run in which the
layer is not stopped while it waits, the guarantee holds in every state.
-/

namespace IolHat

open Octets

/-- A request the application layer has not yet confirmed. -/
structure AlRequest where
  tag : ℕ
  isWrite : Bool
  deriving DecidableEq

/-- The layer with its surroundings. -/
structure OdeSys where
  ode : Ode := {}
  /-- The requests accepted, by number. -/
  requests : List SmiServiceReq := []
  /-- What the application layer has still to confirm. -/
  alPending : List AlRequest := []
  /-- What it has confirmed. -/
  confirmed : List (ℕ × ReadCnf) := []
  /-- What the application has been told. -/
  answers : List (ℕ × SmiAnswer) := []

/-- The inputs. A confirmation is that of the `k`-th pending request; of a write, only the
error type counts. -/
inductive OdeInput
  | request (service : OdeService) (r : SmiServiceReq)
  | odStart
  | odStop
  | alCnf (k : ℕ) (c : ReadCnf)

/-- A call that asks the application layer. -/
def OdeCall.alRequest : OdeCall → Option AlRequest
  | .alReadReq tag _ _ => some ⟨tag, false⟩
  | .alWriteReq tag _ _ _ => some ⟨tag, true⟩
  | _ => none

/-- A call that answers the application. -/
def OdeCall.smiAnswer : OdeCall → Option (ℕ × SmiAnswer)
  | .answer tag a => some (tag, a)
  | _ => none

namespace OdeSys

/-- The layer has processed a job: its calls reach their receivers. -/
def collect (s : OdeSys) (ode : Ode) : OdeSys :=
  { s with
    ode := { ode with calls := [] }
    alPending := s.alPending ++ ode.calls.filterMap OdeCall.alRequest
    answers := s.answers ++ ode.calls.filterMap OdeCall.smiAnswer }

/-- One input. -/
def step (s : OdeSys) : OdeInput → OdeSys
  | .request service r =>
    if service.request r = .none then
      let r := { r with tag := s.requests.length }
      { s with requests := s.requests ++ [r] }.collect (s.ode.smiRwReqCb r)
    else s
  | .odStart => s.collect s.ode.odStartCb
  | .odStop => s.collect s.ode.odStopCb
  | .alCnf k c =>
    match s.alPending[k]? with
    | none => s
    | some q =>
      { s with
        alPending := s.alPending.eraseIdx k
        confirmed := s.confirmed ++ [(q.tag, c)] }.collect
        (if q.isWrite then s.ode.writeCnfCb c.errortype else s.ode.readCnfCb c)

/-- The book of requests and answers. -/
def ledger (s : OdeSys) : Ledger SmiServiceReq SmiAnswer :=
  ⟨s.requests, s.alPending.map AlRequest.tag, s.answers⟩

/-- The confirmation that belongs to a request. -/
def confirmationOf (s : OdeSys) (t : ℕ) : Option ReadCnf :=
  (s.confirmed.find? fun p => decide (p.1 = t)).map Prod.snd

end OdeSys

/-- What the application is to be told when its request has been confirmed. -/
def SmiServiceReq.outcome (r : SmiServiceReq) (c : ReadCnf) : SmiAnswer :=
  if c.errortype ≠ SmiErrorType.none then .joberror r.exp r.argBlock.id c.errortype
  else if r.IsRead then
    if c.len ≤ r.readRoom then .cnf r.argBlock.id (r.fill c).argBlockLen (r.fill c).argBlock
    else .joberror r.exp r.argBlock.id SmiErrorType.argblockLengthInvalid
  else .voidblock r.argBlock.id

namespace OdeSys

/-- An answer to a request is made from the request and its own confirmation; without one, it
refuses the request. -/
def OwnAnswer (s : OdeSys) (t : ℕ) (a : SmiAnswer) : Prop :=
  ∃ r, s.requests[t]? = some r ∧
    match s.confirmationOf t with
    | some c => a = r.outcome c
    | none => ∃ e, a = .joberror r.exp r.argBlock.id e

/-- **Every request is answered exactly once, with its own result.** -/
def Answered (s : OdeSys) : Prop :=
  (∀ t < s.requests.length, s.ledger.pending.count t + s.ledger.answerCount t = 1) ∧
    ∀ t a, (t, a) ∈ s.answers → s.OwnAnswer t a

/-- The layer is not stopped while it waits for a confirmation. -/
def NotStoppedWaiting (s : OdeSys) : OdeInput → Prop
  | .odStop => s.ode.state ≠ .odBlocked
  | _ => True

instance (s : OdeSys) : (i : OdeInput) → Decidable (s.NotStoppedWaiting i)
  | .odStop => inferInstanceAs (Decidable (_ ≠ _))
  | .request .. | .odStart | .alCnf .. => inferInstanceAs (Decidable True)

end OdeSys

namespace Ode

/-! ### What each job does -/

variable {ode : Ode} {r : SmiServiceReq}

theorem smiRw_read (h : ode.smiReq.IsRead) : ode.smiRw = (ode.alReadReq, .odBlock) := if_pos h

theorem smiRw_write (h : ode.smiReq.IsWrite) : ode.smiRw = (ode.alWriteReq, .odBlock) := by
  have hread : ¬ ode.smiReq.IsRead := fun hread => absurd (h.1.symm.trans hread.1) (by decide)
  rw [smiRw, if_neg hread, if_pos h]

theorem smiRw_other (hread : ¬ ode.smiReq.IsRead) (hwrite : ¬ ode.smiReq.IsWrite) :
    ∃ e, ode.smiRw = (ode.answer ode.smiReq
      (.joberror ode.smiReq.exp ode.smiReq.argBlock.id e), .none) := by
  rw [smiRw, if_neg hread, if_neg hwrite]
  exact ⟨_, rfl⟩

/-- A request becomes the one under way. -/
def accept (ode : Ode) (r : SmiServiceReq) : Ode :=
  (ode.setReq { r with result := SmiErrorType.none }).enter .odActive

/-- T4, then T5: a request that is passed on. -/
private theorem smiRwReqCb_passed (h : ode.state = .odActive) {ode' : Ode}
    (hrw : (ode.accept r).smiRw = (ode', .odBlock)) (hstate : ode'.state = .odActive) :
    ode.smiRwReqCb r = ode'.enter .odBlocked := by
  have hrow : fsm.row (ode.setReq { r with result := SmiErrorType.none }) .smiDevRw4 =
      some ⟨.smiDevRw4, .odActive, .smiRw⟩ := Fsm.Machine.row_of_state h rfl
  have hrow' : fsm.row ode' .odBlock = some ⟨.odBlock, .odBlocked, .wait⟩ :=
    Fsm.Machine.row_of_state hstate rfl
  simp only [smiRwReqCb, h]
  exact Fsm.Machine.drive_of_rows hrow hrw (by decide) hrow' rfl

/-- A read in `ODactive` goes to the application layer. -/
theorem smiRwReqCb_read (h : ode.state = .odActive) (hr : r.IsRead) :
    ode.smiRwReqCb r = (ode.accept r).alReadReq.enter .odBlocked :=
  smiRwReqCb_passed h (smiRw_read hr) rfl

/-- A write in `ODactive` goes to the application layer. -/
theorem smiRwReqCb_write (h : ode.state = .odActive) (hr : r.IsWrite) :
    ode.smiRwReqCb r = (ode.accept r).alWriteReq.enter .odBlocked :=
  smiRwReqCb_passed h (smiRw_write hr) rfl

/-- The layer refuses a request: it answers with a job error and does nothing else. -/
structure Refuses (ode ode' : Ode) (r : SmiServiceReq) : Prop where
  state : ode'.state = ode.state
  smiReq : ode.state = .odBlocked → ode'.smiReq = ode.smiReq
  calls : ∃ e, ode'.calls = ode.calls ++ [.answer r.tag (.joberror r.exp r.argBlock.id e)]

/-- A request that is neither a read nor a write is refused in `ODactive`. -/
theorem smiRwReqCb_other (h : ode.state = .odActive) (hread : ¬ r.IsRead) (hwrite : ¬ r.IsWrite) :
    ode.Refuses (ode.smiRwReqCb r) r := by
  have hrow : fsm.row (ode.setReq { r with result := SmiErrorType.none }) .smiDevRw4 =
      some ⟨.smiDevRw4, .odActive, .smiRw⟩ := Fsm.Machine.row_of_state h rfl
  obtain ⟨e, hrw⟩ : ∃ e, (ode.accept r).smiRw = ((ode.accept r).answer r
      (.joberror r.exp r.argBlock.id e), .none) := smiRw_other hread hwrite
  have hcb : ode.smiRwReqCb r = (ode.accept r).answer r (.joberror r.exp r.argBlock.id e) := by
    simp only [smiRwReqCb, h]
    exact Fsm.Machine.drive_of_row_idle hrow hrw
  rw [hcb]
  exact ⟨h.symm, fun hb => absurd (h.symm.trans hb) (by decide), e, rfl⟩

/-- T1 and T6: outside `ODactive` every request is refused. -/
theorem smiRwReqCb_refused (h : ode.state ≠ .odActive) : ode.Refuses (ode.smiRwReqCb r) r := by
  cases hs : ode.state with
  | odActive => exact absurd hs h
  | inactive =>
    have hrow : fsm.row (ode.setBusy r) .smiDevRw1 =
        some ⟨.smiDevRw1, .inactive, .smiOdErr⟩ := Fsm.Machine.row_of_state hs rfl
    have hcb : ode.smiRwReqCb r =
        ((ode.setBusy r).enter .inactive).smiOdErr .smiDevRw1 := by
      simp only [smiRwReqCb, hs]
      exact Fsm.Machine.drive_of_row_idle hrow rfl
    rw [hcb, smiOdErr, if_pos (.inr (.inl rfl))]
    exact ⟨hs.symm, fun _ => rfl, _, rfl⟩
  | odBlocked =>
    have hrow : fsm.row (ode.setBusy r) .smiDevRw6 =
        some ⟨.smiDevRw6, .odBlocked, .smiOdErr⟩ := Fsm.Machine.row_of_state hs rfl
    have hcb : ode.smiRwReqCb r =
        ((ode.setBusy r).enter .odBlocked).smiOdErr .smiDevRw6 := by
      simp only [smiRwReqCb, hs]
      exact Fsm.Machine.drive_of_row_idle hrow rfl
    rw [hcb, smiOdErr, if_pos (.inr (.inr rfl))]
    exact ⟨hs.symm, fun _ => rfl, _, rfl⟩

/-- T7: the pending request is done. -/
theorem event_odUnblock (h : ode.state = .odBlocked) :
    ode.event .odUnblock = (ode.enter .odActive).smiDone := by
  have hrow : fsm.row ode .odUnblock = some ⟨.odUnblock, .odActive, .smiDone⟩ :=
    Fsm.Machine.row_of_state h rfl
  exact Fsm.Machine.drive_of_row_idle hrow rfl

/-- The answer to the pending request. -/
theorem smiDone_of_outcome (ode : Ode) {a : SmiAnswer}
    (ha : a = if ode.smiReq.result ≠ SmiErrorType.none then
        .joberror ode.smiReq.exp ode.smiReq.argBlock.id ode.smiReq.result
      else if ode.smiReq.IsRead then
        .cnf ode.smiReq.argBlock.id ode.smiReq.argBlockLen ode.smiReq.argBlock
      else .voidblock ode.smiReq.argBlock.id)
    (hkind : ode.smiReq.IsRead ∨ ode.smiReq.IsWrite) :
    ode.smiDone = ode.answer ode.smiReq a := by
  subst ha
  rw [smiDone]
  split_ifs with hres hread hwrite
  · rfl
  · rfl
  · rfl
  · exact absurd hkind (not_or.mpr ⟨hread, hwrite⟩)

/-- The record a read confirmation leaves. -/
private theorem smiDone_readCnf {ode : Ode} (hr : r.IsRead) {q : SmiServiceReq} {c : ReadCnf}
    (hq : q = if c.errortype = SmiErrorType.none then
        SmiServiceReq.fill { r with result := c.errortype } c else { r with result := c.errortype })
    (hreq : ode.smiReq = q) : ode.smiDone = ode.answer q (r.outcome c) := by
  subst hreq
  by_cases herr : c.errortype = SmiErrorType.none
  · by_cases hlen : c.len ≤ r.readRoom
    · -- the data fits
      have hfill : ode.smiReq = { r.fill c with result := SmiErrorType.none } := by
        rw [hq, if_pos herr, SmiServiceReq.fill, SmiServiceReq.fill, if_pos hlen, herr]
        exact if_pos hlen
      have hid : (r.fill c).argBlock.id = r.argBlock.id := by rw [SmiServiceReq.fill, if_pos hlen]
      have hexp : (r.fill c).exp = r.exp := by rw [SmiServiceReq.fill, if_pos hlen]
      have hread : ode.smiReq.IsRead := by
        rw [hfill]
        exact ⟨hexp.trans hr.1, hid.trans hr.2⟩
      refine smiDone_of_outcome ode ?_ (.inl hread)
      rw [if_neg (by rw [hfill]; exact fun h => h rfl), if_pos hread, hfill,
        SmiServiceReq.outcome, if_neg (fun h => h herr), if_pos hr, if_pos hlen, hid]
    · -- it does not
      have hfill : ode.smiReq = { r with result := SmiErrorType.argblockLengthInvalid } := by
        rw [hq, if_pos herr, SmiServiceReq.fill]
        exact if_neg hlen
      refine smiDone_of_outcome ode ?_ (.inl (by rw [hfill]; exact hr))
      have herror : SmiErrorType.argblockLengthInvalid ≠ SmiErrorType.none := by decide
      rw [if_pos (by rw [hfill]; exact herror), hfill, SmiServiceReq.outcome,
        if_neg (fun h => h herr), if_pos hr, if_neg hlen]
  · have hset : ode.smiReq = { r with result := c.errortype } := by rw [hq, if_neg herr]
    refine smiDone_of_outcome ode ?_ (.inl (by rw [hset]; exact hr))
    rw [if_pos (by rw [hset]; exact herr), hset, SmiServiceReq.outcome, if_pos herr]

/-- **The confirmation of a read** answers the pending request with its outcome. -/
theorem readCnfCb_pending (h : ode.state = .odBlocked) (hr : r.IsRead)
    (hreq : ode.smiReq = { r with result := SmiErrorType.none }) (c : ReadCnf) :
    (ode.readCnfCb c).state = .odActive ∧
      (ode.readCnfCb c).calls = ode.calls ++ [.answer r.tag (r.outcome c)] := by
  rw [readCnfCb, hreq]
  generalize hq : (if c.errortype = SmiErrorType.none then
    SmiServiceReq.fill { r with result := c.errortype } c else { r with result := c.errortype }) = q
  have htag : q.tag = r.tag := by
    rw [← hq]
    split_ifs
    · rw [SmiServiceReq.fill]
      split_ifs <;> rfl
    · rfl
  have hstate : (ode.setReq q).state = .odBlocked := h
  rw [event_odUnblock hstate, smiDone_readCnf hr hq.symm rfl, answer, htag]
  exact ⟨rfl, rfl⟩

/-- **The confirmation of a write** answers the pending request with its outcome. -/
theorem writeCnfCb_pending (h : ode.state = .odBlocked) (hr : r.IsWrite)
    (hreq : ode.smiReq = { r with result := SmiErrorType.none }) (c : ReadCnf) :
    (ode.writeCnfCb c.errortype).state = .odActive ∧
      (ode.writeCnfCb c.errortype).calls = ode.calls ++ [.answer r.tag (r.outcome c)] := by
  have hread : ¬ r.IsRead := fun hread => absurd (hr.1.symm.trans hread.1) (by decide)
  have hset : (if c.errortype ≠ SmiErrorType.none then { ode.smiReq with result := c.errortype }
      else ode.smiReq) = { r with result := c.errortype } := by
    rw [hreq]
    split_ifs with herr
    · rfl
    · rw [not_ne_iff.mp herr]
  rw [writeCnfCb, hset]
  have hstate : (ode.setReq { r with result := c.errortype }).state = .odBlocked := h
  rw [event_odUnblock hstate, smiDone_of_outcome (a := r.outcome c) _ ?_ (.inr hr)]
  · exact ⟨rfl, rfl⟩
  · show r.outcome c = if c.errortype ≠ SmiErrorType.none then _ else if r.IsRead then _ else _
    rw [SmiServiceReq.outcome, if_neg hread, if_neg hread]
    rfl

/-- T2, and a start that changes nothing. -/
theorem odStartCb_eq (ode : Ode) :
    ode.odStartCb = if ode.state = .inactive then ode.enter .odActive else ode := by
  cases hs : ode.state with
  | inactive =>
    have hrow : fsm.row ode .odStart = some ⟨.odStart, .odActive, .odStart⟩ :=
      Fsm.Machine.row_of_state hs rfl
    exact Fsm.Machine.drive_of_row_idle hrow rfl
  | odActive => exact Fsm.Machine.drive_of_none (Fsm.Machine.row_of_state (M := fsm) hs rfl)
  | odBlocked => exact Fsm.Machine.drive_of_none (Fsm.Machine.row_of_state (M := fsm) hs rfl)

/-- T3, and a stop in the other states. -/
theorem odStopCb_eq (ode : Ode) : ode.odStopCb = ode.enter .inactive := by
  have hrow : fsm.row ode .odStop = some ⟨.odStop, .inactive, .odStop⟩ := by
    cases hs : ode.state <;> exact Fsm.Machine.row_of_state hs rfl
  exact Fsm.Machine.drive_of_row_idle hrow rfl

end Ode

namespace OdeSys

/-! ### The invariant -/

variable {s s' : OdeSys} {ode : Ode} {r : SmiServiceReq}

/-- The layer waits for the confirmation of a request, which it keeps unchanged. -/
structure Waiting (s : OdeSys) (r : SmiServiceReq) : Prop where
  request : s.requests[r.tag]? = some r
  kept : s.ode.smiReq = { r with result := SmiErrorType.none }
  asked : (r.IsRead ∧ s.alPending = [⟨r.tag, false⟩]) ∨ (r.IsWrite ∧ s.alPending = [⟨r.tag, true⟩])

/-- **The invariant.** -/
structure Consistent (s : OdeSys) : Prop where
  balanced : s.ledger.Balanced
  own : ∀ t a, (t, a) ∈ s.answers → s.OwnAnswer t a
  /-- No call is outstanding between two jobs. -/
  calls : s.ode.calls = []
  /-- Only in `ODblocked` has the application layer anything to do. -/
  idle : s.ode.state ≠ .odBlocked → s.alPending = []
  waiting : s.ode.state = .odBlocked → ∃ r, s.Waiting r
  /-- What has been confirmed has been answered. -/
  answered : ∀ p ∈ s.confirmed, ∃ a, (p.1, a) ∈ s.answers

theorem Consistent.answered_all (h : s.Consistent) : s.Answered :=
  ⟨fun _ ht => h.balanced.count_eq_one ht, h.own⟩

theorem Consistent.init : Consistent {} where
  balanced := Ledger.balanced_nil
  own _ _ h := absurd h List.not_mem_nil
  calls := rfl
  idle _ := rfl
  waiting h := absurd h (by decide)
  answered _ h := absurd h List.not_mem_nil

/-- A number without an answer has not been confirmed. -/
theorem Consistent.confirmationOf_eq_none (h : s.Consistent) {t : ℕ}
    (ht : ∀ a, (t, a) ∉ s.answers) : s.confirmationOf t = none := by
  rw [confirmationOf, List.find?_eq_none.mpr, Option.map_none]
  intro p hp htag
  obtain ⟨a, ha⟩ := h.answered p hp
  exact ht a (of_decide_eq_true htag ▸ ha)

/-- The number of the next request has not been answered. -/
theorem Consistent.next_not_answered (h : s.Consistent) (a : SmiAnswer) :
    (s.requests.length, a) ∉ s.answers :=
  fun ha => absurd (h.balanced.lt_of_answered ha) (lt_irrefl _)

/-- Answers stay answers to the same requests when more requests are accepted. -/
theorem OwnAnswer.append {t : ℕ} {a : SmiAnswer} {rs : List SmiServiceReq}
    (h : s.OwnAnswer t a) (hrequests : s'.requests = s.requests ++ rs)
    (hconfirmed : s'.confirmed = s.confirmed) : s'.OwnAnswer t a := by
  obtain ⟨r, hr, ha⟩ := h
  refine ⟨r, ?_, ?_⟩
  · rw [hrequests, List.getElem?_append_left (List.getElem?_eq_some_iff.mp hr).1, hr]
  · rwa [confirmationOf, hconfirmed]

/-- The confirmation of one request is not that of another. -/
theorem confirmationOf_append {t t' : ℕ} {c : ReadCnf}
    (hconfirmed : s'.confirmed = s.confirmed ++ [(t', c)]) :
    s'.confirmationOf t = (s.confirmationOf t).or (if t' = t then some c else none) := by
  rw [confirmationOf, hconfirmed, List.find?_append, Option.map_or, confirmationOf]
  congr 1
  by_cases h : t' = t <;> simp [h]

/-! ### What one input preserves -/

@[simp] theorem collect_of_calls_nil (h : ode.calls = []) :
    s.collect ode = { s with ode := ode } := by
  rw [collect, h]
  obtain ⟨state, smiReq, busy, calls⟩ := ode
  obtain rfl : calls = [] := h
  simp

/-- A job that makes no call and does not start or end a wait. -/
theorem Consistent.quiet (h : s.Consistent) (hcalls : ode.calls = s.ode.calls)
    (hidle : s.ode.state ≠ .odBlocked) (hstate : ode.state ≠ .odBlocked) :
    (s.collect ode).Consistent := by
  rw [collect_of_calls_nil (hcalls.trans h.calls)]
  exact
    { balanced := h.balanced
      own := h.own
      calls := hcalls.trans h.calls
      idle := fun _ => h.idle hidle
      waiting := fun hb => absurd hb hstate
      answered := h.answered }

/-- A request that goes to the application layer. -/
private theorem Consistent.issue (h : s.Consistent) (hidle : s.ode.state ≠ .odBlocked)
    (htag : r.tag = s.requests.length) {c : OdeCall} {w : Bool}
    (hasked : (r.IsRead ∧ w = false) ∨ (r.IsWrite ∧ w = true))
    (hcall : c.alRequest = some ⟨r.tag, w⟩) (hanswer : c.smiAnswer = none)
    (hcalls : ode.calls = [c]) (hstate : ode.state = .odBlocked)
    (hkept : ode.smiReq = { r with result := SmiErrorType.none }) :
    ({ s with requests := s.requests ++ [r] }.collect ode).Consistent := by
  have hpending : ode.calls.filterMap OdeCall.alRequest = [⟨r.tag, w⟩] := by
    rw [hcalls, List.filterMap_cons_some hcall, List.filterMap_nil]
  have hnone : ode.calls.filterMap OdeCall.smiAnswer = [] := by
    rw [hcalls, List.filterMap_cons_none hanswer, List.filterMap_nil]
  have hnil := h.idle hidle
  simp only [collect, hpending, hnone, List.append_nil]
  refine
    { balanced := ?_
      own := fun t a ha => (h.own t a ha).append rfl rfl
      calls := rfl
      idle := fun hb => absurd hstate hb
      waiting := fun _ => ⟨r, ?_, hkept, ?_⟩
      answered := h.answered }
  · have hissue := h.balanced.issue r
    rw [Ledger.issue] at hissue
    simpa only [ledger, List.map_append, List.map_cons, List.map_nil, htag] using hissue
  · show (s.requests ++ [r])[r.tag]? = some r
    rw [htag, List.getElem?_concat_length]
  · rw [hnil, List.nil_append]
    rcases hasked with ⟨hr, rfl⟩ | ⟨hr, rfl⟩
    · exact .inl ⟨hr, rfl⟩
    · exact .inr ⟨hr, rfl⟩

/-- A request that is refused. -/
private theorem Consistent.refuse (h : s.Consistent) (htag : r.tag = s.requests.length)
    (hrefuses : s.ode.Refuses ode r) :
    ({ s with requests := s.requests ++ [r] }.collect ode).Consistent := by
  obtain ⟨e, hcalls⟩ := hrefuses.calls
  rw [h.calls, List.nil_append] at hcalls
  simp only [collect, hcalls, List.filterMap_cons, List.filterMap_nil, OdeCall.alRequest,
    OdeCall.smiAnswer, List.append_nil]
  refine
    { balanced := ?_
      own := ?_
      calls := rfl
      idle := fun hb => h.idle (fun hs => hb (hrefuses.state.trans hs))
      waiting := fun hb => ?_
      answered := fun p hp => ?_ }
  · have hrefuse := h.balanced.refuse r (.joberror r.exp r.argBlock.id e)
    rw [Ledger.refuse] at hrefuse
    simpa only [ledger, htag] using hrefuse
  · intro t a ha
    rcases List.mem_append.mp ha with ha | ha
    · exact (h.own t a ha).append rfl rfl
    · -- the new answer: nothing has been confirmed for it
      obtain ⟨rfl, rfl⟩ := Prod.mk.injEq .. ▸ List.mem_singleton.mp ha
      refine ⟨r, ?_, ?_⟩
      · show (s.requests ++ [r])[r.tag]? = some r
        rw [htag, List.getElem?_concat_length]
      · have hnone : s.confirmationOf r.tag = none :=
          h.confirmationOf_eq_none (htag ▸ h.next_not_answered)
        show match s.confirmationOf r.tag with | some c => _ | none => _
        rw [hnone]
        exact ⟨e, rfl⟩
  · have hs : s.ode.state = .odBlocked := hrefuses.state.symm.trans hb
    obtain ⟨q, hq⟩ := h.waiting hs
    refine ⟨q, ?_, (hrefuses.smiReq hs).trans hq.kept, hq.asked⟩
    show (s.requests ++ [r])[q.tag]? = some q
    rw [List.getElem?_append_left (List.getElem?_eq_some_iff.mp hq.request).1, hq.request]
  · obtain ⟨a, ha⟩ := h.answered p hp
    exact ⟨a, List.mem_append_left _ ha⟩

/-- The confirmation that the layer waits for. -/
private theorem Consistent.settle (h : s.Consistent) {w : Bool} {c : ReadCnf}
    (hr : s.requests[r.tag]? = some r) (hpending : s.alPending = [⟨r.tag, w⟩])
    (hstate : ode.state = .odActive) (hcalls : ode.calls = [.answer r.tag (r.outcome c)]) :
    ({ s with
      alPending := []
      confirmed := s.confirmed ++ [(r.tag, c)] }.collect ode).Consistent := by
  have hmem : r.tag ∈ s.ledger.pending := by
    show r.tag ∈ s.alPending.map AlRequest.tag
    rw [hpending]
    exact List.mem_singleton_self _
  have hnot : ∀ a, (r.tag, a) ∉ s.answers := fun a => h.balanced.not_answered hmem a
  simp only [collect, hcalls, List.filterMap_cons, List.filterMap_nil, OdeCall.alRequest,
    OdeCall.smiAnswer, List.append_nil]
  refine
    { balanced := ?_
      own := ?_
      calls := rfl
      idle := fun _ => rfl
      waiting := fun hb => absurd (hstate.symm.trans hb) (by decide)
      answered := ?_ }
  · have hsettle := h.balanced.settle hmem (r.outcome c)
    rw [Ledger.settle] at hsettle
    simpa only [ledger, hpending, List.map_cons, List.map_nil, List.erase_cons_head] using hsettle
  · intro t a ha
    rcases List.mem_append.mp ha with ha | ha
    · -- an older answer belongs to another request
      obtain ⟨q, hq, hqa⟩ := h.own t a ha
      have hne : r.tag ≠ t := by
        rintro rfl
        exact hnot a ha
      refine ⟨q, hq, ?_⟩
      rw [confirmationOf_append (s := s) rfl, if_neg hne, Option.or_none]
      exact hqa
    · obtain ⟨rfl, rfl⟩ := Prod.mk.injEq .. ▸ List.mem_singleton.mp ha
      refine ⟨r, hr, ?_⟩
      rw [confirmationOf_append (s := s) rfl, h.confirmationOf_eq_none hnot, if_pos rfl]
      rfl
  · intro p hp
    rcases List.mem_append.mp hp with hp | hp
    · obtain ⟨a, ha⟩ := h.answered p hp
      exact ⟨a, List.mem_append_left _ ha⟩
    · obtain rfl := List.mem_singleton.mp hp
      exact ⟨r.outcome c, List.mem_append_right _ (List.mem_singleton_self _)⟩

/-- An accepted request. -/
theorem Consistent.accept (h : s.Consistent) (htag : r.tag = s.requests.length) :
    ({ s with requests := s.requests ++ [r] }.collect (s.ode.smiRwReqCb r)).Consistent := by
  by_cases hs : s.ode.state = .odActive
  · have hidle : s.ode.state ≠ .odBlocked := fun hb => absurd (hs.symm.trans hb) (by decide)
    by_cases hread : r.IsRead
    · rw [Ode.smiRwReqCb_read hs hread]
      refine h.issue hidle htag (.inl ⟨hread, rfl⟩) (c := .alReadReq r.tag r.argBlock.index
        r.argBlock.subindex) rfl rfl ?_ rfl rfl
      rw [Ode.enter_calls, Ode.alReadReq, Ode.call_calls]
      exact (congrArg (· ++ _) h.calls).trans (List.nil_append _)
    by_cases hwrite : r.IsWrite
    · rw [Ode.smiRwReqCb_write hs hwrite]
      refine h.issue hidle htag (.inr ⟨hwrite, rfl⟩) (c := .alWriteReq r.tag r.argBlock.index
        r.argBlock.subindex (r.argBlock.data.take r.writeLen)) rfl rfl ?_ rfl rfl
      rw [Ode.enter_calls, Ode.alWriteReq, Ode.call_calls]
      exact (congrArg (· ++ _) h.calls).trans (List.nil_append _)
    · exact h.refuse htag (Ode.smiRwReqCb_other hs hread hwrite)
  · exact h.refuse htag (Ode.smiRwReqCb_refused hs)

/-- A confirmation by the application layer. -/
theorem Consistent.confirm (h : s.Consistent) (k : ℕ) (c : ReadCnf) :
    (s.step (.alCnf k c)).Consistent := by
  by_cases hs : s.ode.state = .odBlocked
  · obtain ⟨r, hw⟩ := h.waiting hs
    have hr := hw.request
    rcases hw.asked with ⟨hread, hpending⟩ | ⟨hwrite, hpending⟩
    · obtain ⟨hstate, hcalls⟩ := Ode.readCnfCb_pending hs hread hw.kept c
      rw [h.calls, List.nil_append] at hcalls
      cases k with
      | zero => simpa [step, hpending] using h.settle hr hpending hstate hcalls
      | succ k => simpa [step, hpending] using h
    · obtain ⟨hstate, hcalls⟩ := Ode.writeCnfCb_pending hs hwrite hw.kept c
      rw [h.calls, List.nil_append] at hcalls
      cases k with
      | zero => simpa [step, hpending] using h.settle hr hpending hstate hcalls
      | succ k => simpa [step, hpending] using h
  · -- nothing is pending
    have hnil := h.idle hs
    simpa [step, hnil] using h

/-- **One input** keeps the invariant, unless it stops the layer while it waits. -/
theorem Consistent.step (h : s.Consistent) {i : OdeInput} (hi : s.NotStoppedWaiting i) :
    (s.step i).Consistent := by
  cases i with
  | request service r =>
    rw [OdeSys.step]
    split_ifs with haccepted
    · exact h.accept rfl
    · exact h
  | odStart =>
    rw [OdeSys.step, Ode.odStartCb_eq]
    split_ifs with hs
    · exact h.quiet rfl (by rw [hs]; decide) OdeState.noConfusion
    · rw [collect_of_calls_nil h.calls]
      exact h
  | odStop =>
    rw [OdeSys.step, Ode.odStopCb_eq]
    exact h.quiet rfl hi OdeState.noConfusion
  | alCnf k c => exact h.confirm k c

/-! ### Whole runs -/

/-- **Every request is answered exactly once, with its own result**, in every run in which the
layer is not stopped while it waits. -/
theorem answered_of_reaches {s : OdeSys}
    (h : Runs.Reaches OdeSys.step NotStoppedWaiting {} s) : s.Answered :=
  (h.invariant Consistent .init fun _ _ hs hi => hs.step hi).answered_all

/-- A read of one octet of index 16. -/
private def readOne : SmiServiceReq where
  exp := ArgBlockId.odRd
  argBlockLen := 6
  argBlock := { id := ArgBlockId.odRd, index := 16, data := [0] }

/-- A write of one octet. -/
private def writeOne : SmiServiceReq where
  exp := ArgBlockId.voidBlock
  argBlockLen := 6
  argBlock := { id := ArgBlockId.odWr, index := 16, data := [7] }

/-- Two requests one after the other, a third that comes too early, and a stop in between. -/
theorem two_requests_are_answered :
    (Runs.run step {} [.odStart, .request .deviceRead readOne, .request .deviceWrite writeOne,
      .alCnf 0 (.ofOctet 42), .odStop, .odStart, .request .deviceWrite writeOne,
      .alCnf 0 (.ofError .idxNotavail)]).Answered :=
  answered_of_reaches (Runs.reaches_run (by decide))

/-- **A request is lost when the layer is stopped while it waits.** The confirmation changes the
record of the request, but nobody is told. -/
theorem stopped_request_is_never_answered :
    ¬ (Runs.run step {} [.odStart, .request .deviceRead readOne, .odStop,
      .alCnf 0 (.ofOctet 42)]).Answered :=
  fun h => absurd (h.1 0 (by decide)) (by decide)

end OdeSys

end IolHat
