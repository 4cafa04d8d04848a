import IolHat.ProcessDataExchange.Image
import IolHat.Lib.Run

/-!
# The application sees the process image

What one step of one thread preserves of a port whose requests are on their way. Each step of a
request adds one condition to what its thread has seen (`RequestPc.Found`), and hands over an answer
only when the conditions make it the right one (`PdExchange.Inv.perform`).
-/

namespace IolHat

open Octets

namespace PdExchange

/-- **The port is what its image shows.** -/
structure Shows (s : PdExchange) (i : ProcessImage) : Prop where
  active : i.active = decide (s.pde.state = .pdActive)
  status : i.status = s.pde.portStatusInfo
  quality : i.quality = s.portQualityInfo
  input : i.input = s.alGetInputReq
  inputLength : i.input.length = s.pdinDataLen
  output : i.output = s.pde.dl.pdHandler.pdoutdata
  enabled : i.enabled = s.pde.outputEnable
  digital : i.digital = s.pde.digitalOutput.getLast?

/-- The invariant of the runs. -/
structure Inv (s : PdExchange) : Prop where
  shows : s.Shows (ProcessImage.after s.log)
  allowed : Log.Justified ExchangeEntry.Allowed s.log
  counted : ∀ t, s.log.countP (ExchangeEntry.isCalled t) =
    s.log.countP (ExchangeEntry.isReturned t) + (s.pending t).isSome.toNat
  onItsWay : ∀ t r pc, s.pending t = some (r, pc) → OnItsWay s.log t r pc

variable {s s' : PdExchange} {thread : ℕ} {r : ExchangeRequest} {pc pc' : RequestPc}
  {e : ExchangeEntry}

/-! ### Events of the stack -/

/-- What happens elsewhere leaves a request on its way. -/
theorem onItsWay_concat {log : List ExchangeEntry} (h : OnItsWay log thread r pc)
    (he : e.Foreign thread) (hquiet : e.isCalled thread = false ∧ e.isReturned thread = false) :
    OnItsWay (log ++ [e]) thread r pc := by
  obtain ⟨l, mid, rfl, hmid, hsince⟩ := h
  exact ⟨l, mid ++ [e], by simp, hmid.concat hquiet, hsince.concat he⟩

/-- The entry of an event of the stack. -/
def StackEntry : ExchangeEntry → Prop
  | .written _ _ | .updated _ _ _ | .enabled _ _ => False
  | .called _ _ | .answered _ _ _ | .returned _ _ _ => False
  | _ => True

theorem StackEntry.foreign (he : StackEntry e) (t : ℕ) :
    e.Foreign t ∧ e.isCalled t = false ∧ e.isReturned t = false := by
  cases e <;> first | exact he.elim | exact ⟨⟨rfl, rfl⟩, rfl, rfl⟩

theorem StackEntry.allowed (he : StackEntry e) (log : List ExchangeEntry) : e.Allowed log := by
  cases e <;> first | exact he.elim | trivial

/-- An event that is not about a request. -/
theorem Inv.event (h : s.Inv) (e : ExchangeEntry) (he : StackEntry e)
    (hlog : s'.log = s.log ++ [e]) (hpending : s'.pending = s.pending)
    (hshows : s'.Shows ((ProcessImage.after s.log).step e)) : s'.Inv where
  shows := by
    rw [hlog, ProcessImage.after_append]
    exact hshows
  allowed := hlog ▸ h.allowed.concat (he.allowed s.log)
  counted t := by
    obtain ⟨-, hcalled, hreturned⟩ := he.foreign t
    rw [hlog, hpending, List.countP_append, List.countP_append, List.countP_singleton,
      List.countP_singleton, hcalled, hreturned]
    exact h.counted t
  onItsWay t r pc hp := by
    obtain ⟨hforeign, hquiet⟩ := he.foreign t
    rw [hlog]
    exact onItsWay_concat (h.onItsWay t r pc (hpending ▸ hp)) hforeign hquiet

/-- Nothing of the image changes. -/
theorem Inv.of_eq (h : s.Inv) (hlog : s'.log = s.log) (hpending : s'.pending = s.pending)
    (hshows : s'.Shows (ProcessImage.after s.log)) : s'.Inv where
  shows := hlog ▸ hshows
  allowed := hlog ▸ h.allowed
  counted t := by
    rw [hlog, hpending]
    exact h.counted t
  onItsWay t r pc hp := by
    rw [hlog]
    exact h.onItsWay t r pc (hpending ▸ hp)

theorem Inv.pdInputTransportInd (h : s.Inv) (data : List Octet) :
    (s.pdInputTransportInd data).Inv := by
  unfold PdExchange.pdInputTransportInd
  split_ifs with hlong
  · exact h.of_eq rfl rfl { h.shows with }
  · refine h.event (.indicated data) trivial rfl rfl ?_
    exact { h.shows with
      input := ((s.pdinData).slice_zero_write (Nat.le_of_not_lt hlong)).symm
      inputLength := rfl }

theorem Inv.dlCall (h : s.Inv) (c : DlCall) : (s.dlCall c).Inv := by
  cases c with
  | pdInputTransportInd p data => exact h.pdInputTransportInd data
  | controlInd code => exact h.of_eq rfl rfl { h.shows with }
  | _ => exact h

theorem Inv.link (h : s.Inv) {i : LinkInput} (hi : Move.Regular (.link i)) : (s.link i).Inv := by
  have hcalls : ∀ (cs : List DlCall) {s : PdExchange}, s.Inv →
      (cs.foldl PdExchange.dlCall s).Inv := by
    intro cs
    induction cs with
    | nil => exact id
    | cons c cs ih => exact fun h => ih (h.dlCall c)
  unfold PdExchange.link
  refine hcalls _ ?_
  by_cases hreset : i = .dl .reset
  · subst hreset
    exact h.event .reset trivial rfl rfl { h.shows with output := rfl }
  · have hwrites : ¬ i.WritesOutput := by
      intro hw
      unfold LinkInput.WritesOutput at hw
      split at hw
      · exact hi
      · exact hreset rfl
      · exact hw
    have hlog : linkEntries i = [] := by
      unfold linkEntries
      split
      · exact absurd rfl hreset
      · rfl
    have hkept := s.pde.dl.unlogged.pdoutdata_linkStep hwrites
    rw [hlog, List.append_nil]
    exact h.of_eq rfl rfl { h.shows with output := h.shows.output.trans hkept.symm }

theorem Inv.controlJob (h : s.Inv) : s.controlJob.Inv := by
  unfold PdExchange.controlJob
  split
  · exact h
  · rename_i code rest _
    split
    · rename_i quality hquality
      refine h.event (.control code) trivial rfl rfl { h.shows with quality := ?_ }
      show (alControlInd (ProcessImage.after s.log).quality code).getD _ = quality
      rw [h.shows.quality, hquality, Option.getD_some]
    · exact h.of_eq rfl rfl { h.shows with }

theorem Inv.portStatus (h : s.Inv) (status : PortStatusInfo) : (s.portStatus status).Inv :=
  h.event (.portStatus status) trivial rfl rfl { h.shows with status := rfl }

theorem Inv.portQuality (h : s.Inv) (quality : Octet) : (s.portQuality quality).Inv :=
  h.event (.portQuality quality) trivial rfl rfl { h.shows with quality := rfl }

theorem Inv.pdStart (h : s.Inv) : s.pdStart.Inv :=
  h.event .activated trivial rfl rfl { h.shows with active := rfl }

theorem Inv.pdStopEnable (h : s.Inv) : s.pdStopEnable.Inv :=
  h.event .disabled trivial rfl rfl { h.shows with enabled := rfl }

theorem Inv.pdStopState (h : s.Inv) : s.pdStopState.Inv :=
  h.event .deactivated trivial rfl rfl { h.shows with active := rfl }

/-! ### Requests -/

/-- Only the thread that goes on gets to another place. -/
theorem goto_cases (s : PdExchange) (thread : ℕ) (r : ExchangeRequest) (pc : RequestPc) (t : ℕ) :
    t = thread ∧ (s.goto thread r pc).pending t = some (r, pc) ∨
      t ≠ thread ∧ (s.goto thread r pc).pending t = s.pending t := by
  by_cases ht : t = thread
  · exact .inl ⟨ht, ht ▸ Function.update_self ..⟩
  · exact .inr ⟨ht, Function.update_of_ne ht ..⟩

theorem isSome_goto (hpending : s.pending thread = some (r, pc)) (pc' : RequestPc) (t : ℕ) :
    ((s.goto thread r pc').pending t).isSome = (s.pending t).isSome := by
  rcases s.goto_cases thread r pc' t with ⟨rfl, ht⟩ | ⟨-, ht⟩
  · rw [ht, hpending]
    rfl
  · rw [ht]

/-- A request goes on, and nothing else changes. -/
theorem Inv.goto (h : s.Inv) (hpending : s.pending thread = some (r, pc)) {pc' : RequestPc}
    (hsince : ∀ l mid, s.log = l ++ mid → pc.Since l mid thread r → pc'.Since l mid thread r) :
    (s.goto thread r pc').Inv where
  shows := { h.shows with }
  allowed := h.allowed
  counted t := by
    rw [isSome_goto hpending]
    exact h.counted t
  onItsWay t r₁ pc₁ hp := by
    rcases s.goto_cases thread r pc' t with ⟨rfl, ht⟩ | ⟨-, ht⟩
    · rw [ht] at hp
      cases hp
      obtain ⟨l, mid, hlog, hmid, h⟩ := h.onItsWay t r pc hpending
      exact ⟨l, mid, hlog, hmid, hsince _ mid hlog h⟩
    · exact h.onItsWay t r₁ pc₁ (ht ▸ hp)

/-- The entry of a step of a request: an output, or an answer to the thread. -/
structure StepEntry (e : ExchangeEntry) (thread : ℕ) : Prop where
  foreign : ∀ t ≠ thread, e.Foreign t
  quiet : ∀ t, e.isCalled t = false ∧ e.isReturned t = false

/-- A request goes on with an entry. -/
theorem Inv.gotoWith (h : s.Inv) (hpending : s.pending thread = some (r, pc)) {p : Pde}
    {e : ExchangeEntry} {pc' : RequestPc} (he : StepEntry e thread) (hallowed : e.Allowed s.log)
    (hshows : (s.setPde p).Shows ((ProcessImage.after s.log).step e))
    (hsince : ∀ l mid, s.log = l ++ mid → pc.Since l mid thread r →
      pc'.Since l (mid ++ [e]) thread r) :
    (((s.setPde p).record e).goto thread r pc').Inv where
  shows := by
    show Shows _ (ProcessImage.after (s.log ++ [e]))
    rw [ProcessImage.after_append]
    exact { hshows with }
  allowed := h.allowed.concat hallowed
  counted t := by
    obtain ⟨hcalled, hreturned⟩ := he.quiet t
    show (s.log ++ [e]).countP _ = (s.log ++ [e]).countP _ +
      ((s.goto thread r pc').pending t).isSome.toNat
    rw [isSome_goto hpending, List.countP_append, List.countP_append, List.countP_singleton,
      List.countP_singleton, hcalled, hreturned]
    exact h.counted t
  onItsWay t r₁ pc₁ hp := by
    have hp : (s.goto thread r pc').pending t = some (r₁, pc₁) := hp
    rcases s.goto_cases thread r pc' t with ⟨rfl, ht⟩ | ⟨hne, ht⟩
    · rw [ht] at hp
      cases hp
      obtain ⟨l, mid, hlog, hmid, h⟩ := h.onItsWay t r pc hpending
      refine ⟨l, mid ++ [e], ?_, hmid.concat (he.quiet t), hsince _ mid hlog h⟩
      show s.log ++ [e] = _
      rw [hlog, List.append_assoc]
    · exact onItsWay_concat (h.onItsWay t r₁ pc₁ (ht ▸ hp)) (he.foreign t hne) (he.quiet t)

/-- A thread makes a request. -/
theorem Inv.call (h : s.Inv) (thread : ℕ) (r : ExchangeRequest) : (s.call thread r).Inv := by
  cases hpending : s.pending thread with
  | some x =>
    have hsame : s.call thread r = s := by rw [PdExchange.call, hpending]
    exact hsame.symm ▸ h
  | none =>
  rw [PdExchange.call, hpending]
  refine ⟨?_, h.allowed.concat trivial, fun t => ?_, fun t r₁ pc₁ hp => ?_⟩
  · show Shows _ (ProcessImage.after (s.log ++ [.called thread r]))
    rw [ProcessImage.after_append]
    exact { h.shows with }
  · have hcounted := h.counted t
    show List.countP _ (s.log ++ [.called thread r]) =
      List.countP _ (s.log ++ [.called thread r]) +
        (Function.update s.pending thread _ t).isSome.toNat
    simp only [List.countP_append, List.countP_singleton, ExchangeEntry.isCalled,
      ExchangeEntry.isReturned]
    by_cases ht : t = thread
    · subst ht
      rw [hpending] at hcounted
      simp [hcounted]
    · simp [Function.update_of_ne ht, Ne.symm ht, hcounted]
  · have hp : Function.update s.pending thread (some (r, if r.blockError ≠ SmiErrorType.none then
        .answer (.smi (.joberror r.exp r.ref r.blockError)) .parameterConflict
        else .checkStatus)) t = some (r₁, pc₁) := hp
    by_cases ht : t = thread
    · subst ht
      rw [Function.update_self] at hp
      cases hp
      refine ⟨s.log, [], (List.append_nil _).symm, fun e he => absurd he List.not_mem_nil, ?_⟩
      -- The arg block is checked before the port is looked at.
      by_cases hblock : r.blockError = SmiErrorType.none
      · rw [if_neg (not_not.mpr hblock)]
        exact ⟨rfl, hblock, fun e he => absurd he List.not_mem_nil⟩
      · rw [if_pos hblock]
        refine ⟨rfl, iff_of_false nofun nofun, ?_⟩
        rw [ExchangeAnswer.Right, if_pos hblock]
    · rw [Function.update_of_ne ht] at hp
      refine onItsWay_concat (h.onItsWay t r₁ pc₁ hp) ⟨rfl, rfl⟩ ⟨?_, rfl⟩
      exact decide_eq_false (Ne.symm ht)

/-- The function of a request returns. -/
theorem Inv.return_ (h : s.Inv) {error : IolinkError}
    (hpending : s.pending thread = some (r, .return_ error)) (di : Bool) :
    (s.perform thread r (.return_ error) di).Inv := by
  obtain ⟨l, mid, hlog, hmid, hfinished⟩ := h.onItsWay thread r _ hpending
  refine ⟨?_, h.allowed.concat ⟨l, mid, hlog, hmid, hfinished⟩, fun t => ?_, fun t r₁ pc₁ hp => ?_⟩
  · show Shows _ (ProcessImage.after (s.log ++ [.returned thread r error]))
    rw [ProcessImage.after_append]
    exact { h.shows with }
  · have hcounted := h.counted t
    show List.countP _ (s.log ++ [.returned thread r error]) =
      List.countP _ (s.log ++ [.returned thread r error]) +
        (Function.update s.pending thread none t).isSome.toNat
    simp only [List.countP_append, List.countP_singleton, ExchangeEntry.isCalled,
      ExchangeEntry.isReturned]
    by_cases ht : t = thread
    · subst ht
      rw [hpending] at hcounted
      simp [hcounted]
    · simp [Function.update_of_ne ht, Ne.symm ht, hcounted]
  · have hp : Function.update s.pending thread none t = some (r₁, pc₁) := hp
    by_cases ht : t = thread
    · subst ht
      rw [Function.update_self] at hp
      cases hp
    · rw [Function.update_of_ne ht] at hp
      refine onItsWay_concat (h.onItsWay t r₁ pc₁ hp) ⟨rfl, rfl⟩ ⟨rfl, ?_⟩
      exact decide_eq_false (Ne.symm ht)

/-- An answer that is not an error. -/
private theorem since_answer {l mid : List ExchangeEntry} {a : ExchangeAnswer}
    (htold : answersTo thread mid = []) (hblock : r.blockError = SmiErrorType.none)
    (ha : a.Shown l mid thread r) (hconfirms : a.Confirms) :
    (RequestPc.answer a .none).Since l mid thread r := by
  refine ⟨htold, iff_of_true rfl hconfirms, ?_⟩
  rwa [ExchangeAnswer.Right, if_neg (not_not.mpr hblock)]

/-- An error. -/
private theorem since_joberror {l mid : List ExchangeEntry} {exp ref : ArgBlockId}
    {smiError : SmiErrorType} {error : IolinkError} (htold : answersTo thread mid = [])
    (hblock : r.blockError = SmiErrorType.none)
    (ha : ExchangeAnswer.Shown l mid thread r (.smi (.joberror exp ref smiError)))
    (herror : error ≠ .none) :
    (RequestPc.answer (.smi (.joberror exp ref smiError)) error).Since l mid thread r := by
  refine ⟨htold, iff_of_false herror id, ?_⟩
  rwa [ExchangeAnswer.Right, if_neg (not_not.mpr hblock)]

/-- The image of the moment, for a thread that looks at it. -/
private theorem Inv.now (h : s.Inv) {l mid : List ExchangeEntry} (hlog : s.log = l ++ mid) :
    s.Shows (ProcessImage.after (l ++ mid)) :=
  hlog ▸ h.shows

private theorem Inv.checkStatus (h : s.Inv) (hpending : s.pending thread = some (r, .checkStatus))
    (di : Bool) : (s.perform thread r .checkStatus di).Inv := by
  refine h.goto hpending fun l mid hlog ⟨htold, hblock, hfound⟩ => ⟨htold, hblock, ?_, hfound⟩
  exact Sees.now Log.passes_nil (fun i => i.status = s.pde.portStatusInfo) (h.now hlog).status

private theorem Inv.checkState (h : s.Inv) {status : PortStatusInfo}
    (hpending : s.pending thread = some (r, .checkState status)) (di : Bool) :
    (s.perform thread r (.checkState status) di).Inv := by
  refine h.goto hpending fun l mid hlog ⟨htold, hblock, hsees, hunchanged⟩ => ?_
  -- The status was read a step ago and may have changed since; the state is the one of now.
  split_ifs with hno
  · refine since_joberror htold hblock (.inactive ?_) nofun
    have hnot : Sees l [fun i => i.status ≠ .di ∧ i.status ≠ .do_] mid :=
      hsees.imp fun i hi => by rw [hi]; exact hno.2
    refine hnot.now (fun i => i.active = false) ?_
    rw [(h.now hlog).active, hno.1]
    rfl
  · refine ⟨htold, hblock, ?_, hunchanged⟩
    by_cases hstatus : status = .di ∨ status = .do_
    · exact hsees.imp fun i hi => .inr (hi ▸ hstatus)
    · refine Sees.now Log.passes_nil ProcessImage.Accessible (.inl ?_)
      rw [(h.now hlog).active]
      cases hstate : s.pde.state with
      | inactive => exact absurd ⟨hstate, not_or.mp hstatus⟩ hno
      | pdActive => rfl

private theorem Inv.readStatus (h : s.Inv) (hpending : s.pending thread = some (r, .readStatus))
    (di : Bool) : (s.perform thread r .readStatus di).Inv := by
  refine h.goto hpending fun l mid hlog ⟨htold, hblock, hsees, hunchanged⟩ => ?_
  have hstatus := (h.now hlog).status
  have hsame {status : PortStatusInfo} (heq : s.pde.portStatusInfo = status) :
      Sees l [ProcessImage.Accessible, fun i => i.status = status] mid :=
    hsees.now (fun i => i.status = status) (hstatus.trans heq)
  have hother {status : PortStatusInfo} (hne : s.pde.portStatusInfo ≠ status) :
      Sees l [ProcessImage.Accessible, fun i => i.status ≠ status] mid :=
    hsees.now (fun i => i.status ≠ status) (hstatus ▸ hne)
  cases r with
  | pdIn exp ref n =>
    rw [ExchangeRequest.branch]
    split_ifs with hdi
    · exact ⟨htold, hblock, hsame hdi⟩
    · exact ⟨htold, hblock, hother hdi⟩
  | pdOut exp n argBlock =>
    rw [ExchangeRequest.branch]
    split_ifs with hdo
    · exact ⟨htold, hblock, rfl, hsame hdo⟩
    -- Nothing has been put out yet, which is what an error promises.
    · exact ⟨htold, hblock, rfl, hother hdo, hunchanged⟩
  | pdInOut exp ref n =>
    rw [ExchangeRequest.branch]
    split_ifs with hdi
    -- A digital input: the function returns, and nobody is told.
    · exact .inr ⟨htold, rfl, trivial, hsame hdi⟩
    · exact ⟨htold, hblock, hother hdi⟩

private theorem Inv.readDi (h : s.Inv) (hpending : s.pending thread = some (r, .readDi))
    (di : Bool) : (s.perform thread r .readDi di).Inv := by
  refine h.goto hpending fun l mid hlog ⟨htold, hblock, hfound⟩ => ?_
  cases r with
  | pdIn exp ref n => exact since_answer htold hblock (.digitalIn di hfound) trivial
  | _ => exact hfound.elim

private theorem Inv.readQuality (h : s.Inv) (hpending : s.pending thread = some (r, .readQuality))
    (di : Bool) : (s.perform thread r .readQuality di).Inv := by
  refine h.goto hpending fun l mid hlog ⟨htold, hblock, hfound⟩ => ?_
  have hquality := congrArg portQualityToQualifier (h.now hlog).quality
  cases r with
  | pdOut => exact hfound.elim
  | _ => exact ⟨htold, hblock,
      Sees.now hfound (fun i => portQualityToQualifier i.quality = _) hquality⟩

private theorem Inv.getInput (h : s.Inv) {q : Octet}
    (hpending : s.pending thread = some (r, .getInput q)) (di : Bool) :
    (s.perform thread r (.getInput q) di).Inv := by
  refine h.goto hpending fun l mid hlog ⟨htold, hblock, hfound⟩ => ?_
  cases r with
  | pdIn exp ref n =>
    refine since_answer htold hblock (.pdIn ?_) trivial
    exact Sees.now hfound (fun i => i.input = _) (h.now hlog).input
  | _ => exact hfound.elim

private theorem Inv.readEnable (h : s.Inv) {q : Octet}
    (hpending : s.pending thread = some (r, .readEnable q)) (di : Bool) :
    (s.perform thread r (.readEnable q) di).Inv := by
  refine h.goto hpending fun l mid hlog ⟨htold, hblock, hfound⟩ => ?_
  cases r with
  | pdInOut exp ref n =>
    exact ⟨htold, hblock, Sees.now hfound (fun i => i.enabled = _) (h.now hlog).enabled⟩
  | _ => exact hfound.elim

private theorem Inv.getInputOutput (h : s.Inv) {q : Octet} {oe : Bool}
    (hpending : s.pending thread = some (r, .getInputOutput q oe)) (di : Bool) :
    (s.perform thread r (.getInputOutput q oe) di).Inv := by
  refine h.goto hpending fun l mid hlog ⟨htold, hblock, hfound⟩ => ?_
  cases r with
  | pdInOut exp ref n =>
    have hnow := h.now hlog
    have hsees := Sees.now hfound (fun i => i.input = s.alGetInputReq ∧
      i.output.slice 0 s.pde.dl.pdHandler.pdTxlen = s.pde.dl.pdOutputGetReq)
      ⟨hnow.input, by rw [hnow.output]; rfl⟩
    have hlen : s.alGetInputReq.length = s.pdinDataLen := hnow.input ▸ hnow.inputLength
    have hshown : ExchangeAnswer.Shown l mid thread (.pdInOut exp ref n) (.pdInOut exp q oe
        (UInt8.ofNat s.alGetInputReq.length :: s.alGetInputReq ++
          UInt8.ofNat s.pde.dl.pdHandler.pdTxlen :: s.pde.dl.pdOutputGetReq)) := .pdInOut hsees
    rw [hlen] at hshown
    exact since_answer htold hblock hshown trivial
  | _ => exact hfound.elim

/-! ### The output -/

/-- The copy of the image. -/
def outputOf (output : Buffer Octet pdMaxSize) (data : List Octet) (length : ℕ) :
    Buffer Octet pdMaxSize :=
  if length % 2 = 1 then (output.write 0 (data.take length)).write length [0]
  else output.write 0 (data.take length)

/-- What `DL_PDOutputUpdate_req` does to the output octets. -/
theorem pdOutputCopy_pdoutdata (dl : Dl) (data : List Octet) :
    (dl.pdOutputCopy data).pdHandler.pdoutdata =
      outputOf dl.pdHandler.pdoutdata data dl.pdHandler.pdTxlen := by
  unfold Dl.pdOutputCopy outputOf
  dsimp only
  split_ifs <;> rfl

/-- The octets of a request are those of the output behind it, as far as they are sent. -/
theorem slice_outputOf (output data : Buffer Octet pdMaxSize) (length : ℕ) :
    (outputOf output data.cells length).slice 0 length = data.slice 0 length := by
  have htaken : (data.cells.take length).length = min length pdMaxSize := by simp
  have hwrite : (output.write 0 (data.cells.take length)).slice 0 length = data.slice 0 length := by
    rw [output.slice_zero_write_append (by omega), htaken, List.take_take, Nat.min_self]
    have hrest : output.slice (min length pdMaxSize) (length - min length pdMaxSize) = [] := by
      rcases Nat.le_total length pdMaxSize with hle | hle
      · rw [Nat.min_eq_left hle, Nat.sub_self]
        exact List.take_zero
      · rw [Nat.min_eq_right hle, Buffer.slice, Buffer.suffix,
          List.drop_of_length_le (by rw [output.length_cells]), List.take_nil]
    rw [hrest, List.append_nil]
    rfl
  unfold outputOf
  split_ifs
  · rw [Buffer.slice_write_of_le _ _ (Nat.le_refl length), hwrite]
  · exact hwrite

/-- `AL_Control_req` keeps the output. -/
theorem alControlReq_pdoutdata (p : Pde) (code : ControlCode) :
    (p.alControlReq code).2.dl.pdHandler.pdoutdata = p.dl.pdHandler.pdoutdata :=
  Dl.HoldsOutput.of_kept rfl ((Dl.outputKept_closed p.dl).controlReq (.refl p.dl) code)

private theorem Inv.writeDo (h : s.Inv) {b : ArgBlockPdout}
    (hpending : s.pending thread = some (r, .writeDo b)) (di : Bool) :
    (s.perform thread r (.writeDo b) di).Inv := by
  have hentry : StepEntry (.written thread b.writeVal) thread :=
    ⟨fun _ _ => ⟨rfl, rfl⟩, fun _ => ⟨rfl, rfl⟩⟩
  refine h.gotoWith hpending hentry trivial { h.shows with digital := ?_ } ?_
  · exact List.getLast?_concat.symm
  · intro l mid hlog ⟨htold, hblock, hfound⟩
    cases r with
    | pdOut exp n argBlock =>
      obtain ⟨rfl, hsees⟩ := hfound
      refine since_answer ((answersTo_concat rfl).trans htold) hblock (.digitalOut ?_) trivial
      refine Sees.now (hsees.append [_]) (fun i => i.digital = some b.writeVal) ?_
      rw [← List.append_assoc, ProcessImage.after_append]
      rfl
    | _ => exact hfound.elim

private theorem Inv.setOutput (h : s.Inv) {b : ArgBlockPdout}
    (hpending : s.pending thread = some (r, .setOutput b)) (di : Bool) :
    (s.perform thread r (.setOutput b) di).Inv := by
  refine h.goto hpending fun l mid hlog ⟨htold, hblock, hfound⟩ => ?_
  cases r with
  | pdOut exp n argBlock =>
    obtain ⟨rfl, hsees, hunchanged⟩ := hfound
    split_ifs
    · exact since_joberror htold hblock (.notAccessible hsees hunchanged) nofun
    · exact ⟨htold, hblock, rfl, hsees, hunchanged⟩
  | _ => exact hfound.elim

private theorem Inv.copyOutput (h : s.Inv) {b : ArgBlockPdout}
    (hpending : s.pending thread = some (r, .copyOutput b)) (di : Bool) :
    (s.perform thread r (.copyOutput b) di).Inv := by
  let e : ExchangeEntry := .updated thread b.data.cells s.pde.dl.pdHandler.pdTxlen
  have hentry : StepEntry e thread :=
    ⟨fun t ht => ⟨rfl, decide_eq_false (Ne.symm ht)⟩, fun _ => ⟨rfl, rfl⟩⟩
  have houtput : outputOf (ProcessImage.after s.log).output b.data.cells
      s.pde.dl.pdHandler.pdTxlen = (s.pde.dl.pdOutputCopy b.data.cells).pdHandler.pdoutdata := by
    rw [h.shows.output, pdOutputCopy_pdoutdata]
  refine h.gotoWith hpending hentry trivial { h.shows with output := houtput } ?_
  -- The image holds the octets from this entry on, so what the thread has seen ends with it.
  intro l mid hlog ⟨htold, hblock, hfound⟩
  cases r with
  | pdOut exp n argBlock =>
    obtain ⟨rfl, hsees, -⟩ := hfound
    refine ⟨(answersTo_concat rfl).trans htold, hblock, rfl, ?_⟩
    refine Sees.now (hsees.append [_]) (ProcessImage.Holds b) ?_
    rw [← List.append_assoc, ProcessImage.after_append]
    exact slice_outputOf _ _ _
  | _ => exact hfound.elim

private theorem Inv.compareEnable (h : s.Inv) {b : ArgBlockPdout}
    (hpending : s.pending thread = some (r, .compareEnable b)) (di : Bool) :
    (s.perform thread r (.compareEnable b) di).Inv := by
  refine h.goto hpending fun l mid hlog ⟨htold, hblock, hfound⟩ => ?_
  cases r with
  | pdOut exp n argBlock =>
    obtain ⟨rfl, hsees⟩ := hfound
    -- An output enable that is the one of the port is confirmed at once.
    split_ifs with hen
    · exact ⟨htold, hblock, rfl, hsees⟩
    · refine since_answer htold hblock (.pdOut ?_) trivial
      refine Sees.now hsees (fun i => i.enabled = b.outputEnable) ?_
      exact (h.now hlog).enabled.trans (not_not.mp hen)
  | _ => exact hfound.elim

private theorem Inv.control (h : s.Inv) {b : ArgBlockPdout}
    (hpending : s.pending thread = some (r, .control b)) (di : Bool) :
    (s.perform thread r (.control b) di).Inv := by
  have hkept : (s.setPde (s.pde.alControlReq
      (if b.outputEnable then .pdoutvalid else .pdoutinvalid)).2).Inv :=
    h.of_eq rfl rfl { h.shows with
      output := h.shows.output.trans (alControlReq_pdoutdata s.pde _).symm }
  have hnone : (s.pde.dl.controlReq
      (if b.outputEnable then .pdoutvalid else .pdoutinvalid)).1 = .none := by
    cases b.outputEnable <;> rfl
  refine hkept.goto hpending fun l mid hlog ⟨htold, hblock, hfound⟩ => ?_
  rw [if_neg (not_not.mpr hnone)]
  cases r with
  | pdOut exp n argBlock => exact ⟨htold, hblock, hfound⟩
  | _ => exact hfound.elim

private theorem Inv.writeEnable (h : s.Inv) {b : ArgBlockPdout}
    (hpending : s.pending thread = some (r, .writeEnable b)) (di : Bool) :
    (s.perform thread r (.writeEnable b) di).Inv := by
  have hentry : StepEntry (.enabled thread b.outputEnable) thread :=
    ⟨fun _ _ => ⟨rfl, rfl⟩, fun _ => ⟨rfl, rfl⟩⟩
  refine h.gotoWith hpending hentry trivial { h.shows with enabled := rfl } ?_
  intro l mid hlog ⟨htold, hblock, hfound⟩
  cases r with
  | pdOut exp n argBlock =>
    obtain ⟨rfl, hsees⟩ := hfound
    refine since_answer ((answersTo_concat rfl).trans htold) hblock (.pdOut ?_) trivial
    refine Sees.now (hsees.append [_]) (fun i => i.enabled = b.outputEnable) ?_
    rw [← List.append_assoc, ProcessImage.after_append]
    rfl
  | _ => exact hfound.elim

/-- The application is told. -/
private theorem Inv.told (h : s.Inv) {a : ExchangeAnswer} {error : IolinkError}
    (hpending : s.pending thread = some (r, .answer a error)) (di : Bool) :
    (s.perform thread r (.answer a error) di).Inv := by
  have hentry : StepEntry (.answered thread r a) thread :=
    ⟨fun t ht => ⟨if_neg (Ne.symm ht), rfl⟩, fun _ => ⟨rfl, rfl⟩⟩
  obtain ⟨l, mid, hlog, hmid, htold, -, hright⟩ := h.onItsWay thread r _ hpending
  refine h.gotoWith (p := s.pde) hpending hentry ⟨l, mid, hlog, hmid, htold, hright⟩
    { h.shows with } ?_
  intro l mid hlog ⟨htold, herror, _⟩
  refine .inl ⟨a, ?_, herror⟩
  have hanswer : (ExchangeEntry.answered thread r a).answerTo thread = some a := if_pos rfl
  rw [answersTo, List.filterMap_append, List.filterMap_cons_some hanswer]
  exact congrArg (· ++ [a]) htold

/-- **One step of a request.** -/
theorem Inv.perform (h : s.Inv) (hpending : s.pending thread = some (r, pc)) (di : Bool) :
    (s.perform thread r pc di).Inv := by
  cases pc with
  | checkStatus => exact h.checkStatus hpending di
  | checkState status => exact h.checkState hpending di
  | readStatus => exact h.readStatus hpending di
  | readDi => exact h.readDi hpending di
  | readQuality => exact h.readQuality hpending di
  | getInput q => exact h.getInput hpending di
  | readEnable q => exact h.readEnable hpending di
  | getInputOutput q oe => exact h.getInputOutput hpending di
  | writeDo b => exact h.writeDo hpending di
  | setOutput b => exact h.setOutput hpending di
  | copyOutput b => exact h.copyOutput hpending di
  | compareEnable b => exact h.compareEnable hpending di
  | control b => exact h.control hpending di
  | writeEnable b => exact h.writeEnable hpending di
  | answer a error => exact h.told hpending di
  | return_ error => exact h.return_ hpending di

end PdExchange

end IolHat
