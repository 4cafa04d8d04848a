import IolHat.ApplicationLayer.Services
import IolHat.DataLink.IsduVerdict
import IolHat.Lib.Run

/-!
# The outcome of an ISDU service

The application layer of a port and the ISDU handler below it, from the request of a service to
the call of its callback.

* `IsduServices` is the state of both, with the confirmations that are queued between them and the
  octets of the response that have been heard. The handler is called for a message or by `IH_Conf`,
  and between two calls the state around it changes; further services may be requested at any time.
* `SuccessIsPositive` is what a callback that reports success should mean: a complete positive
  response of the service has been heard, and a read delivers its payload.
* `success_is_positive` proves it for every run in which the calls of the handler are
  `Dl.Unspoiled`. A negative response with the error code zero is one that is not, and it is
  reported as success (`not_success_is_positive`).
-/

namespace IolHat

open Octets

/-- The index of a request. -/
def AlRwReq.index {κ : Type} : AlRwReq κ → UInt16
  | .read index _ _ => index
  | .write index _ _ _ => index

/-- The I-service of a positive response. -/
def RwDirection.positiveResponse : RwDirection → Octet
  | .read => iserviceReadResponsePos
  | .write => iserviceWriteResponsePos

namespace AlCall

variable {κ : Type}

/-- A callback is told that its service has succeeded. -/
def Success : AlCall κ → Prop
  | .readCnf _ _ _ errortype => errortype = SmiErrorType.none
  | .writeCnf _ errortype => errortype = SmiErrorType.none
  | _ => False

instance : (c : AlCall κ) → Decidable c.Success
  | .readCnf _ _ _ errortype => inferInstanceAs (Decidable (errortype = SmiErrorType.none))
  | .writeCnf _ errortype => inferInstanceAs (Decidable (errortype = SmiErrorType.none))
  | .readParamReq _ | .writeParamReq _ _ | .isduTransportReq _ | .overrun | .assertion =>
    inferInstanceAs (Decidable False)

/-- What a read delivers is the payload. -/
def Delivers (payload : List Octet) : AlCall κ → Prop
  | .readCnf _ len data _ =>
    len.toNat = payload.length ∧ ∃ b, data = some b ∧ b.slice 0 len.toNat = payload
  | _ => True

end AlCall

/-! ### The calls of the handler -/

/-- A call of `iolink_dl_isdu_h_sm`. -/
inductive HandlerCall
  /-- For a master message to be prepared. -/
  | masterMessage (now : UInt32)
  /-- For the answer of the device. -/
  | deviceMessage (now : UInt32) (octets : List Octet)
  /-- By `IH_Conf`; the trigger of the OD handler may still stand. -/
  | conf (now : UInt32) (trigger : Trigger) (cmd : HandlerCmd)
  deriving DecidableEq

namespace Dl

/-- A new call: nothing has been put out yet. -/
@[simps] def newCall (dl : Dl) : Dl := { dl with out := [] }

/-- The layer in which the handler is called. -/
def prepare (dl : Dl) : HandlerCall → Dl
  | .masterMessage now => (dl.newCall.atTime now).modOd ({ · with trigger := .masterMessage })
  | .deviceMessage now octets => dl.newCall.arrive now octets
  | .conf now trigger cmd =>
    ((dl.newCall.atTime now).modOd ({ · with trigger := trigger })).modIsdu
      ({ · with ihcmd := cmd })

/-- A request of the application layer. A service on an index from 2 on makes no other one. -/
def serve {κ : Type} (dl : Dl) : AlCall κ → Dl
  | .isduTransportReq vl => (dl.isduTransportReq vl).2
  | _ => dl

end Dl

/-! ### The services of a port -/

/-- The application layer and the ISDU handler of a port. -/
structure IsduServices (κ : Type) where
  al : Al κ
  dl : Dl
  /-- The octets heard of the response to the last service. -/
  heard : List Octet := []
  /-- The jobs of `DL_ISDUTransport_cnf` that have not been handled. -/
  queue : List (Octet × Status) := []

/-- What can happen to them. -/
inductive IsduServicesInput (κ : Type)
  /-- The job of a request. -/
  | request (r : AlRwReq κ)
  /-- The next job of `DL_ISDUTransport_cnf`. -/
  | confirmation
  /-- A call of the ISDU handler. -/
  | call (c : HandlerCall)
  /-- The mode handler, `rwcmd` and `od_len` change between two calls. -/
  | surroundings (mode : ModeHandler) (rwcmd : MHRWCmd) (odLen : ℕ)

namespace IsduServices

variable {κ : Type}

/-- `DL_ISDUTransport_cnf` is called. -/
def take (s : IsduServices κ) : DlCall → IsduServices κ
  | .isduTransportCnf data length qualifier errinfo =>
    { s with
      al := s.al.isduTransportCnf data length qualifier errinfo
      queue := s.queue ++ [(qualifier, errinfo)] }
  | _ => s

/-- The calls that the data link layer has made. -/
def collect (s : IsduServices κ) : IsduServices κ := s.dl.out.foldl take s

/-- The job of a request. -/
def request (s : IsduServices κ) (r : AlRwReq κ) : IsduServices κ :=
  let al := s.al.handle (.service r)
  collect { s with
    al, dl := al.calls.foldl Dl.serve s.dl.newCall
    heard := if s.al.odState = .onReqIdle then [] else s.heard }

/-- The next job of `DL_ISDUTransport_cnf`, if there is one. -/
def confirmation (s : IsduServices κ) : IsduServices κ :=
  match s.queue with
  | [] => { s with al := s.al.newJob }
  | (qualifier, stat) :: rest =>
    { s with al := s.al.handle (.isduTransportCnf qualifier stat), queue := rest }

/-- A call of the ISDU handler. -/
def call (s : IsduServices κ) (c : HandlerCall) : IsduServices κ :=
  collect { s with
    al := s.al.newJob, dl := (s.dl.prepare c).isduHSm
    heard := (s.dl.prepare c).heardAfter s.heard }

/-- One input. -/
def step (s : IsduServices κ) : IsduServicesInput κ → IsduServices κ
  | .request r => s.request r
  | .confirmation => s.confirmation
  | .call c => s.call c
  | .surroundings mode rwcmd odLen =>
    { s with
      al := s.al.newJob
      dl := (s.dl.modMode fun _ => mode).modMessage
        ({ · with rwcmd := rwcmd, odLen := odLen }) }

/-- What the surroundings keep to: the services are on an index from 2 on and begin when no
confirmation of an earlier one is left, only `DL_ISDUTransport_req` sets `rwcmd` to ISDUTRANSPORT,
and `od_len` stays as it is while a response is received. -/
def Regular (s : IsduServices κ) : IsduServicesInput κ → Prop
  | .request r => s.al.odState = .onReqIdle → 2 ≤ r.index ∧ s.queue = []
  | .surroundings _ rwcmd odLen =>
    (rwcmd = .isdutransport → s.dl.messageHandler.rwcmd = .isdutransport) ∧
      Dl.StackOdLen odLen ∧
      (s.dl.isduHandler.state = .isduresponse5 → odLen = s.dl.messageHandler.odLen)
  | .confirmation | .call _ => True

instance (od : ℕ) : Decidable (Dl.StackOdLen od) :=
  inferInstanceAs (Decidable (_ ∨ _))

instance (s : IsduServices κ) : (i : IsduServicesInput κ) → Decidable (s.Regular i)
  | .request _ => inferInstanceAs (Decidable (_ → _))
  | .surroundings _ _ _ => inferInstanceAs (Decidable (_ ∧ _))
  | .confirmation | .call _ => inferInstanceAs (Decidable True)

/-- While a service is in progress, nothing goes wrong with the segment a call stores. -/
def Unspoiled (s : IsduServices κ) : IsduServicesInput κ → Prop
  | .call c => s.al.odState = .awaitDlIsduCnf ∧ s.queue = [] → (s.dl.prepare c).Unspoiled
  | .request _ | .confirmation | .surroundings _ _ _ => True

instance (s : IsduServices κ) : (i : IsduServicesInput κ) → Decidable (s.Unspoiled i)
  | .call _ => inferInstanceAs (Decidable (_ → _))
  | .request _ | .confirmation | .surroundings _ _ _ => inferInstanceAs (Decidable True)

/-- A callback that is told of success follows a complete positive response of its service, and a
read delivers the payload of it. -/
def SuccessIsPositive (s : IsduServices κ) : Prop :=
  ∀ c ∈ s.al.calls, c.Success → ∃ isdu, CompleteIsdu isdu ∧
    iservOf isdu = s.al.service.direction.positiveResponse ∧ isdu <+: s.heard ∧
    c.Delivers (payloadOf isdu)

/-- No service is in progress. -/
structure Idle (s : IsduServices κ) : Prop where
  al : s.al.odState = .onReqIdle ∧ s.al.calls = []
  odLen : Dl.StackOdLen s.dl.messageHandler.odLen

end IsduServices

/-! ### The error type -/

namespace AlService

variable {κ : Type} {s : AlService κ}

theorem alStatusToErrortype_eq_none {stat : Status}
    (h : alStatusToErrortype stat = SmiErrorType.none) : stat = .noError := by
  cases stat
  case noError => rfl
  all_goals exact absurd h (by decide)

/-- A service succeeds when neither its response nor its status says otherwise. -/
theorem errToErrortype_eq_none (h : s.errToErrortype true = SmiErrorType.none) :
    s.isduErrortype = SmiErrorType.none ∧ s.errinfo = .noError := by
  unfold errToErrortype at h
  split_ifs at h with herr
  · exact absurd h herr.2
  · exact ⟨not_not.mp fun hne => herr ⟨rfl, hne⟩, alStatusToErrortype_eq_none h⟩

/-- The error code of a negative response is no error type when it is zero. -/
theorem deviceError_eq_none (h : s.deviceError = SmiErrorType.none) :
    s.dataLen = 2 ∧ s.dataRead.get 0 = 0 ∧ s.dataRead.get 1 = 0 := by
  unfold deviceError at h
  split_ifs at h with hlen
  · obtain ⟨hhigh, hlow⟩ := UInt16.or_eq_zero_iff.mp h
    refine ⟨hlen, ?_, ?_⟩
    · have hnat := congrArg UInt16.toNat hhigh
      have hlt := (s.dataRead.get 0).toNat_lt
      rw [UInt16.toNat_shiftLeft, UInt8.toNat_toUInt16, Nat.shiftLeft_eq] at hnat
      have hmul : (s.dataRead.get 0).toNat * 256 = 0 := by
        simpa [Nat.mod_eq_of_lt (show (s.dataRead.get 0).toNat * 256 < 65536 by omega)] using hnat
      exact UInt8.toNat.inj ((Nat.mul_eq_zero.mp hmul).resolve_right (by decide))
    · have hnat := congrArg UInt16.toNat hlow
      rw [UInt8.toNat_toUInt16] at hnat
      exact UInt8.toNat.inj hnat
  · exact absurd h (by decide)

/-- What success takes of the response: it is positive, or it is negative with the error code
zero. -/
theorem isduErrortype_eq_none (h : s.isduErrortype = SmiErrorType.none)
    (herr : s.errinfo = .noError)
    (hwrite : s.direction = .write → AnswersDirection false s.qualifier) :
    s.qualifier = s.direction.positiveResponse ∨
      (s.qualifier = iserviceReadResponseNeg ∧ s.direction = .read ∨
        s.qualifier = iserviceWriteResponseNeg ∧ s.direction = .write) ∧
        s.deviceError = SmiErrorType.none := by
  unfold isduErrortype at h
  rw [if_neg (by rw [herr]; decide)] at h
  cases hd : s.direction with
  | read =>
    rw [hd] at h
    dsimp only at h
    split_ifs at h with hneg hpos
    · exact .inr ⟨.inl ⟨hneg, rfl⟩, h⟩
    · exact .inl hpos
    · exact absurd h (by decide)
  | write =>
    rw [hd] at h
    dsimp only at h
    obtain hneg | hpos := hwrite hd
    · rw [if_pos (show s.qualifier = iserviceWriteResponseNeg from hneg)] at h
      exact .inr ⟨.inr ⟨hneg, rfl⟩, h⟩
    · exact .inl hpos

end AlService

namespace IsduServices

variable {κ : Type} {s : IsduServices κ}

/-! ### The invariant -/

/-- The confirmation of an ISDU waits for the application layer, which has stored the payload. -/
structure Settled (s : IsduServices κ) (isdu : List Octet) : Prop where
  complete : CompleteIsdu isdu
  heard : isdu <+: s.heard
  code : ¬ ZeroErrorCode isdu
  answers : s.al.service.direction = .write → AnswersDirection false (iservOf isdu)
  stored : s.al.service.Stores (iservOf isdu) .noError →
    s.al.service.dataLen.toNat = (payloadOf isdu).length ∧
      s.al.service.dataRead.slice 0 (payloadOf isdu).length = payloadOf isdu
  rest : s.dl.Resting

/-- What a waiting application layer waits for. -/
inductive Pending (s : IsduServices κ) : Prop
  /-- The handler. -/
  | handler (hqueue : s.queue = [])
      (h : s.dl.Gathers (decide (s.al.service.direction = .read)) s.heard)
  /-- The job of a service that has failed. -/
  | failed (qualifier : Octet) (stat : Status) (rest : List (Octet × Status))
      (hqueue : s.queue = (qualifier, stat) :: rest) (hstat : stat ≠ .noError)
  /-- The job of a service that has been answered. -/
  | settled (isdu : List Octet) (rest : List (Octet × Status))
      (hqueue : s.queue = (iservOf isdu, .noError) :: rest) (h : s.Settled isdu)

/-- The invariant. -/
structure Inv (s : IsduServices κ) : Prop where
  odLen : Dl.StackOdLen s.dl.messageHandler.odLen
  sound : s.SuccessIsPositive
  state : s.al.odState = .onReqIdle ∨
    s.al.odState = .awaitDlIsduCnf ∧ s.al.service.callback ≠ none ∧ s.Pending

/-- The octets of an error code that is zero. -/
theorem Settled.deviceError_ne {isdu : List Octet} (h : s.Settled isdu)
    (hstores : s.al.service.Stores (iservOf isdu) .noError)
    (hneg : iservOf isdu = iserviceReadResponseNeg ∨ iservOf isdu = iserviceWriteResponseNeg) :
    s.al.service.deviceError ≠ SmiErrorType.none := by
  intro hnone
  obtain ⟨hlen, h0, h1⟩ := AlService.deviceError_eq_none hnone
  obtain ⟨hpayload, hdata⟩ := h.stored hstores
  have htwo : (payloadOf isdu).length = 2 := by
    rw [← hpayload, hlen]
    rfl
  rw [htwo, Buffer.slice_zero_succ _ (show 1 < 241 by decide),
    Buffer.slice_zero_succ _ (show 0 < 241 by decide), h0, h1] at hdata
  exact h.code ⟨hneg, hdata.symm⟩

/-- **The verdict on a settled service.** -/
theorem Settled.success {isdu : List Octet} (h : s.Settled isdu) {k : κ}
    (hc : (Al.isduCnf (s.al.service.confirmed (iservOf isdu) .noError) k).Success) :
    iservOf isdu = s.al.service.direction.positiveResponse ∧
      (Al.isduCnf (s.al.service.confirmed (iservOf isdu) .noError) k).Delivers
        (payloadOf isdu) := by
  have herr : (s.al.service.confirmed (iservOf isdu) .noError).errToErrortype true =
      SmiErrorType.none := by
    unfold Al.isduCnf at hc
    split at hc
    · exact hc
    · exact hc
  obtain ⟨hnone, -⟩ := AlService.errToErrortype_eq_none herr
  obtain hpos | ⟨hneg, hdevice⟩ := AlService.isduErrortype_eq_none hnone rfl h.answers
  · refine ⟨hpos, ?_⟩
    unfold Al.isduCnf
    cases hd : s.al.service.direction with
    | write =>
      rw [AlService.confirmed_direction, hd]
      trivial
    | read =>
      obtain ⟨hlen, hdata⟩ := h.stored (.inl ⟨hd, rfl⟩)
      rw [AlService.confirmed_direction, hd]
      exact ⟨hlen, _, rfl, by rw [AlService.confirmed_dataLen, hlen]; exact hdata⟩
  · -- a negative response has been stored, and its error code is not zero
    obtain ⟨hq, hd⟩ | ⟨hq, hd⟩ := hneg
    · exact absurd hdevice (h.deviceError_ne (.inl ⟨hd, rfl⟩) (.inl hq))
    · exact absurd hdevice (h.deviceError_ne (.inr ⟨hd, hq⟩) (.inr hq))

/-! ### The queue -/

/-- `DL_ISDUTransport_cnf` stores octets of the service and posts a job. -/
structure Collected (s t : IsduServices κ) : Prop where
  dl : t.dl = s.dl
  heard : t.heard = s.heard
  odState : t.al.odState = s.al.odState
  calls : t.al.calls = s.al.calls
  direction : t.al.service.direction = s.al.service.direction
  callback : t.al.service.callback = s.al.service.callback
  queue : s.queue <+: t.queue

theorem Collected.refl (s : IsduServices κ) : s.Collected s :=
  ⟨rfl, rfl, rfl, rfl, rfl, rfl, List.prefix_rfl⟩

theorem Collected.trans {t u : IsduServices κ} (h : s.Collected t) (h' : t.Collected u) :
    s.Collected u where
  dl := h'.dl.trans h.dl
  heard := h'.heard.trans h.heard
  odState := h'.odState.trans h.odState
  calls := h'.calls.trans h.calls
  direction := h'.direction.trans h.direction
  callback := h'.callback.trans h.callback
  queue := h.queue.trans h'.queue

/-- Storing a response changes the data of the service only. -/
theorem isduTransportCnf_frame (al : Al κ) (data : Option (List Octet)) (length : ℕ)
    (qualifier : Octet) (errinfo : Status) :
    (al.isduTransportCnf data length qualifier errinfo).odState = al.odState ∧
      (al.isduTransportCnf data length qualifier errinfo).calls = al.calls ∧
      (al.isduTransportCnf data length qualifier errinfo).service.direction =
        al.service.direction ∧
      (al.isduTransportCnf data length qualifier errinfo).service.callback =
        al.service.callback := by
  unfold Al.isduTransportCnf
  split
  · exact ⟨rfl, rfl, rfl, rfl⟩
  · split_ifs
    · exact ⟨rfl, rfl, rfl, rfl⟩
    · exact ⟨rfl, rfl, rfl, rfl⟩

theorem collected_take (s : IsduServices κ) (c : DlCall) : s.Collected (s.take c) := by
  unfold take
  split
  · obtain ⟨hstate, hcalls, hdir, hcallback⟩ := isduTransportCnf_frame s.al _ _ _ _
    exact ⟨rfl, rfl, hstate, hcalls, hdir, hcallback, List.prefix_append _ _⟩
  · exact .refl s

theorem collected_collect (s : IsduServices κ) : s.Collected s.collect := by
  unfold collect
  generalize s.dl.out = out
  induction out generalizing s with
  | nil => exact .refl s
  | cons c cs ih => exact (collected_take s c).trans (ih _)

/-- Calls to other parts leave everything as it is. -/
theorem collect_of_quiet (h : ∀ c ∈ s.dl.out, ¬ c.IsIsduCnf) : s.collect = s := by
  unfold collect
  generalize s.dl.out = out at h
  induction out with
  | nil => rfl
  | cons c cs ih =>
    have hc : s.take c = s := by
      unfold take
      split
      · exact absurd trivial (h _ List.mem_cons_self)
      · rfl
    rw [List.foldl_cons, hc]
    exact ih fun c hc => h c (List.mem_cons_of_mem _ hc)

/-- Without a response there is nothing to store. -/
theorem collect_service (h : ∀ c ∈ s.dl.out, ¬ c.HasResponse) :
    s.collect.al.service = s.al.service := by
  unfold collect
  generalize s.dl.out = out at h
  induction out generalizing s with
  | nil => rfl
  | cons c cs ih =>
    have hc : (s.take c).al.service = s.al.service := by
      unfold take
      split
      next data length qualifier errinfo =>
        cases data with
        | none => rfl
        | some octets => exact absurd trivial (h _ List.mem_cons_self)
      · rfl
    rw [List.foldl_cons, ih fun c hc => h c (List.mem_cons_of_mem _ hc), hc]

/-- A single confirmation. -/
theorem collect_of_cnf {data : Option (List Octet)} {length : ℕ} {qualifier : Octet}
    {stat : Status} (h : s.dl.out = [.isduTransportCnf data length qualifier stat]) :
    s.collect = { s with
      al := s.al.isduTransportCnf data length qualifier stat
      queue := s.queue ++ [(qualifier, stat)] } := by
  rw [collect, h]
  rfl

/-! ### Calls of the handler -/

theorem sound_of_calls_nil (h : s.al.calls = []) : s.SuccessIsPositive := by
  intro c hc
  rw [h] at hc
  exact absurd hc List.not_mem_nil

@[simp] theorem prepare_out (dl : Dl) (c : HandlerCall) : (dl.prepare c).out = [] := by
  cases c <;> rfl

/-- Between two calls the invariant of the handler stays. -/
theorem gathers_prepare {dl : Dl} {dirRead : Bool} {heard : List Octet}
    (h : dl.Gathers dirRead heard) (c : HandlerCall) : (dl.prepare c).Gathers dirRead heard := by
  cases c with
  | masterMessage now => exact h.congr rfl rfl
  | deviceMessage now octets => exact h.congr rfl rfl
  | conf now trigger cmd =>
    refine ⟨h.odLen, h.dir, h.waiting, fun hs => ?_⟩
    have hg := h.receiving hs
    exact ⟨hg.seg, hg.length, hg.fits, hg.data, hg.answers, hg.counted⟩

theorem resting_prepare {dl : Dl} (h : dl.Resting) (c : HandlerCall) : (dl.prepare c).Resting := by
  cases c <;> exact ⟨h.state, h.rwcmd⟩

theorem odLen_prepare (dl : Dl) (c : HandlerCall) :
    (dl.prepare c).messageHandler.odLen = dl.messageHandler.odLen := by
  cases c <;> rfl

/-- The handler has confirmed an ISDU, and the application layer stores the payload. -/
theorem settled_of_confirmed {isdu : List Octet} (hisdu : CompleteIsdu isdu)
    (hheard : isdu <+: s.heard) (hfits : isdu.length ≤ isduMaxSize)
    (hanswers : AnswersDirection (decide (s.al.service.direction = .read)) (iservOf isdu))
    (hcode : ¬ ZeroErrorCode isdu) (hrest : s.dl.Resting)
    (hout : s.dl.out = [.isduTransportCnf (some (payloadOf isdu)) (payloadOf isdu).length
      (iservOf isdu) .noError]) : s.collect.Settled isdu := by
  have hpayload : (payloadOf isdu).length ≤ isduMaxSize := by
    rw [length_payloadOf]
    omega
  obtain ⟨-, -, hdir, -⟩ := isduTransportCnf_frame s.al (some (payloadOf isdu))
    (payloadOf isdu).length (iservOf isdu) .noError
  rw [collect_of_cnf hout]
  refine ⟨hisdu, hheard, hcode, ?_, ?_, hrest⟩
  · intro hwrite
    have hd : s.al.service.direction = .write := hdir.symm.trans hwrite
    rw [hd] at hanswers
    exact hanswers
  · intro hstores
    have hs : s.al.service.Stores (iservOf isdu) .noError := by
      unfold AlService.Stores at hstores ⊢
      rw [← hdir]
      exact hstores
    dsimp only [Al.isduTransportCnf]
    rw [if_pos ⟨hs, hpayload⟩]
    refine ⟨?_, Buffer.slice_zero_write _ hpayload⟩
    exact Nat.mod_eq_of_lt (Nat.lt_of_le_of_lt hpayload (by decide))

/-- **A call of the handler.** -/
theorem Inv.call (h : s.Inv) {c : HandlerCall} (hu : s.Unspoiled (.call c)) : (s.call c).Inv := by
  obtain ⟨t, ht⟩ : ∃ t : IsduServices κ, t = { s with
    al := s.al.newJob, dl := (s.dl.prepare c).isduHSm
    heard := (s.dl.prepare c).heardAfter s.heard } := ⟨_, rfl⟩
  have hcall : s.call c = t.collect := by rw [ht]; rfl
  have hk := collected_collect t
  have hcalls : t.collect.al.calls = [] := hk.calls.trans (by rw [ht]; rfl)
  have hodLen : t.collect.dl.messageHandler.odLen = s.dl.messageHandler.odLen := by
    rw [hk.dl, ht]
    exact (Dl.isduHSm_odLen _).trans (odLen_prepare _ _)
  rw [hcall]
  refine ⟨hodLen ▸ h.odLen, sound_of_calls_nil hcalls, ?_⟩
  rw [hk.odState]
  obtain hidle | ⟨hwait, hcallback, hpending⟩ := h.state
  · exact .inl (by rw [ht]; exact hidle)
  · refine .inr ⟨by rw [ht]; exact hwait, by rw [hk.callback, ht]; exact hcallback, ?_⟩
    -- While a confirmation is in the queue, the handler says nothing more about the service.
    cases hpending with
    | handler hqueue hg =>
      have hverdict := Dl.isduHSm_verdict (gathers_prepare hg c) (hu ⟨hwait, hqueue⟩)
        (prepare_out s.dl c)
      have hdir : t.al.service.direction = s.al.service.direction := by rw [ht]; rfl
      have htq : t.queue = [] := by rw [ht]; exact hqueue
      cases hverdict with
      | quiet hout hgathers =>
        have hsame : t.collect = t := collect_of_quiet (by rw [ht]; exact hout)
        rw [hsame]
        exact .handler htq (by rw [hdir, ht]; exact hgathers)
      | refused data length qualifier stat hout hstat =>
        have hcnf := collect_of_cnf (s := t) (by rw [ht]; exact hout)
        exact .failed qualifier stat [] (by rw [hcnf, htq]; rfl) hstat
      | confirmed isdu hout hisdu hheard hfits hanswers hcode hrest =>
        have hcnf := collect_of_cnf (s := t) (by rw [ht]; exact hout)
        refine .settled isdu [] (by rw [hcnf, htq]; rfl) ?_
        refine settled_of_confirmed hisdu ?_ hfits (hdir ▸ hanswers) hcode ?_ ?_
        · rw [ht]; exact hheard
        · rw [ht]; exact hrest
        · rw [ht]; exact hout
    | failed qualifier stat rest hqueue hstat =>
      obtain ⟨more, hmore⟩ := hk.queue
      have htq : t.queue = s.queue := by rw [ht]
      rw [htq, hqueue] at hmore
      exact .failed qualifier stat (rest ++ more) hmore.symm hstat
    | settled isdu rest hqueue hsettled =>
      obtain ⟨more, hmore⟩ := hk.queue
      have htq : t.queue = s.queue := by rw [ht]
      rw [htq, hqueue] at hmore
      obtain ⟨hrest, hresponse⟩ :=
        (resting_prepare hsettled.rest c).isduHSm (prepare_out s.dl c)
      have hservice : t.collect.al.service = s.al.service :=
        (collect_service (by rw [ht]; exact hresponse)).trans (by rw [ht]; rfl)
      refine .settled isdu (rest ++ more) hmore.symm ?_
      refine ⟨hsettled.complete, ?_, hsettled.code, ?_, ?_, ?_⟩
      · rw [hk.heard, ht]
        dsimp only
        rw [(resting_prepare hsettled.rest c).heardAfter]
        exact hsettled.heard
      · rw [hservice]
        exact hsettled.answers
      · rw [hservice]
        exact hsettled.stored
      · rw [hk.dl, ht]
        exact hrest

/-! ### Jobs -/

/-- A confirmation with an error is no success. -/
theorem not_success_isduCnf {t : AlService κ} {k : κ} (h : t.errinfo ≠ .noError) :
    ¬ (Al.isduCnf t k).Success := by
  intro hc
  have herr : t.errToErrortype true = SmiErrorType.none := by
    unfold Al.isduCnf at hc
    split at hc
    · exact hc
    · exact hc
  exact h (AlService.errToErrortype_eq_none herr).2

/-- **The next job** of `DL_ISDUTransport_cnf`. -/
theorem Inv.confirmation (h : s.Inv) : s.confirmation.Inv := by
  unfold IsduServices.confirmation
  split
  next hqueue =>
    refine ⟨h.odLen, sound_of_calls_nil rfl, ?_⟩
    obtain hidle | ⟨hwait, hcallback, hpending⟩ := h.state
    · exact .inl hidle
    · refine .inr ⟨hwait, hcallback, ?_⟩
      cases hpending with
      | handler hq hg => exact .handler hq hg
      | failed qualifier stat rest hq =>
        exact absurd (hqueue.symm.trans hq) (List.cons_ne_nil _ _).symm
      | settled isdu rest hq => exact absurd (hqueue.symm.trans hq) (List.cons_ne_nil _ _).symm
  next qualifier stat rest hqueue =>
    obtain hidle | ⟨hwait, hcallback, hpending⟩ := h.state
    · obtain ⟨hstate, hcalls⟩ := Al.handle_isduTransportCnf_idle hidle qualifier stat
      exact ⟨h.odLen, sound_of_calls_nil hcalls, .inl hstate⟩
    · obtain ⟨k, hk⟩ := Option.ne_none_iff_exists'.mp hcallback
      obtain ⟨hstate, hcalls⟩ := Al.handle_isduTransportCnf hwait hk qualifier stat
      refine ⟨h.odLen, ?_, .inl hstate⟩
      intro c hc hsuccess
      rw [hcalls, List.mem_singleton] at hc
      subst hc
      cases hpending with
      | handler hq => exact absurd (hq.symm.trans hqueue) (List.cons_ne_nil _ _).symm
      | failed qualifier' stat' rest' hq hstat =>
        obtain ⟨rfl, rfl⟩ := Prod.mk.inj (List.cons.inj (hqueue.symm.trans hq)).1
        exact absurd hsuccess (not_success_isduCnf hstat)
      | settled isdu rest' hq hsettled =>
        obtain ⟨rfl, rfl⟩ := Prod.mk.inj (List.cons.inj (hqueue.symm.trans hq)).1
        obtain ⟨hpositive, hdelivers⟩ := hsettled.success hsuccess
        refine ⟨isdu, hsettled.complete, ?_, hsettled.heard, hdelivers⟩
        rw [Al.handle_isduTransportCnf_service hwait]
        exact hpositive

/-! ### Requests -/

theorem not_success_busyCnf (r : AlRwReq κ) : ¬ (Al.busyCnf r).Success := by
  cases r with
  | read => exact show ¬ SmiErrorType.serviceTempUnavailable = SmiErrorType.none by decide
  | write => exact show ¬ SmiErrorType.serviceTempUnavailable = SmiErrorType.none by decide

/-- The layer is busy with another service. -/
theorem Inv.request_busy (h : s.Inv) (hwait : s.al.odState = .awaitDlIsduCnf)
    (hcallback : s.al.service.callback ≠ none) (hpending : s.Pending) (r : AlRwReq κ) :
    (s.request r).Inv := by
  obtain ⟨hstate, hcalls⟩ := Al.handle_busy (.inr hwait) r
  have hservice := Al.handle_busy_service hwait r
  have hserve : (s.al.handle (.service r)).calls.foldl Dl.serve s.dl.newCall = s.dl.newCall := by
    rw [hcalls]
    cases r with
    | read => rfl
    | write => rfl
  have hreq : s.request r =
      { s with al := s.al.handle (.service r), dl := s.dl.newCall } := by
    rw [IsduServices.request, hserve, if_neg (by rw [hwait]; decide)]
    exact collect_of_quiet fun c hc => absurd hc List.not_mem_nil
  rw [hreq]
  refine ⟨h.odLen, ?_, .inr ⟨hstate.trans hwait, by rw [hservice]; exact hcallback, ?_⟩⟩
  · intro c hc hsuccess
    rw [hcalls, List.mem_singleton] at hc
    subst hc
    exact absurd hsuccess (not_success_busyCnf r)
  · cases hpending with
    | handler hqueue hg =>
      exact .handler hqueue (by rw [hservice]; exact hg.congr rfl rfl)
    | failed qualifier stat rest hqueue hstat => exact .failed qualifier stat rest hqueue hstat
    | settled isdu rest hqueue hsettled =>
      refine .settled isdu rest hqueue ⟨hsettled.complete, hsettled.heard, hsettled.code, ?_, ?_,
        hsettled.rest.state, hsettled.rest.rwcmd⟩
      · rw [hservice]
        exact hsettled.answers
      · rw [hservice]
        exact hsettled.stored

/-- The service on an index from 2 on. -/
theorem requestEvent_of_index {r : AlRwReq κ} (h : 2 ≤ r.index) :
    ∃ d, (Al.requestEvent r = match d with | .read => .isduRead | .write => .isduWrite) ∧
      ∀ t : AlService κ, (Al.serviceOf t r).direction = d ∧
        (Al.serviceOf t r).callback ≠ none := by
  cases r with
  | read index subindex k =>
    have hlow : ¬ index ≤ 1 := by
      rw [UInt16.le_iff_toNat_le, Nat.not_le]
      exact show (2 : UInt16).toNat ≤ index.toNat from h
    exact ⟨.read, by rw [Al.requestEvent, if_neg hlow],
      fun _ => ⟨rfl, Option.some_ne_none k⟩⟩
  | write index subindex data k =>
    have hone : index ≠ 1 := by
      rintro rfl
      exact absurd h (show ¬ (2 : UInt16) ≤ 1 by decide)
    exact ⟨.write, by rw [Al.requestEvent, if_neg hone, if_pos (show 2 ≤ index from h)],
      fun _ => ⟨rfl, Option.some_ne_none k⟩⟩

/-- A new service. -/
theorem Inv.request_idle (h : s.Inv) (hidle : s.al.odState = .onReqIdle) {r : AlRwReq κ}
    (hindex : 2 ≤ r.index) (hqueue : s.queue = []) : (s.request r).Inv := by
  obtain ⟨d, hevent, hbuilt⟩ := requestEvent_of_index hindex
  obtain ⟨hstate, hservice, hcalls⟩ := Al.handle_isdu hidle hevent
  obtain ⟨t, ht⟩ : ∃ t, t = Al.serviceOf ({ s.al.service with jobReq := some r }) r := ⟨_, rfl⟩
  obtain ⟨hdir, hcallback⟩ : t.direction = d ∧ t.callback ≠ none := ht ▸ hbuilt _
  rw [← ht] at hservice hcalls
  have hcb : (s.al.handle (.service r)).service.callback ≠ none := by
    rw [hservice]
    exact hcallback
  have hserve : (s.al.handle (.service r)).calls.foldl Dl.serve s.dl.newCall =
      (s.dl.newCall.isduTransportReq (t.valuelist d)).2 := by
    rw [hcalls]
    rfl
  have hsound : ∀ {u : IsduServices κ}, u.al.calls = [.isduTransportReq (t.valuelist d)] →
      u.SuccessIsPositive := by
    intro u hu c hc hsuccess
    rw [hu, List.mem_singleton] at hc
    subst hc
    exact absurd hsuccess id
  rw [IsduServices.request, hserve, if_pos hidle]
  -- Either the ISDU handler begins to gather, or its refusal is the first thing in the queue.
  by_cases htakes : s.dl.newCall.TakesIsdu (t.valuelist d)
  · obtain ⟨hout, hg⟩ := Dl.gathers_isduTransportReq htakes h.odLen []
    rw [collect_of_quiet (by
      rw [hout]
      exact fun c hc => absurd hc List.not_mem_nil)]
    refine ⟨hg.odLen, hsound hcalls, .inr ⟨hstate, hcb, ?_⟩⟩
    refine .handler hqueue ?_
    rw [hservice, hdir]
    exact hg
  · obtain ⟨-, errinfo, hmem, hrefused⟩ := Dl.isduTransportReq_of_refused _ _ htakes
    rw [hrefused, collect_of_cnf (show (s.dl.newCall.isduTransportCnfNull 0 errinfo).out =
      [.isduTransportCnf none 0 0 errinfo] from rfl)]
    refine ⟨?_, hsound hcalls, .inr ⟨hstate, hcb, ?_⟩⟩
    · exact h.odLen
    · refine .failed 0 errinfo [] (by rw [hqueue]; rfl) ?_
      rintro rfl
      exact absurd hmem (by decide)

/-- **A request.** -/
theorem Inv.request (h : s.Inv) {r : AlRwReq κ} (hr : s.Regular (.request r)) :
    (s.request r).Inv := by
  obtain hidle | ⟨hwait, hcallback, hpending⟩ := h.state
  · obtain ⟨hindex, hqueue⟩ := hr hidle
    exact h.request_idle hidle hindex hqueue
  · exact h.request_busy hwait hcallback hpending r

/-! ### Runs -/

/-- **The step lemma.** -/
theorem Inv.step (h : s.Inv) {i : IsduServicesInput κ} (hi : s.Regular i ∧ s.Unspoiled i) :
    (s.step i).Inv := by
  cases i with
  | request r => exact h.request hi.1
  | confirmation => exact h.confirmation
  | call c => exact h.call hi.2
  | surroundings mode rwcmd odLen =>
    obtain ⟨hrwcmd, hod, hsteady⟩ := hi.1
    refine ⟨hod, sound_of_calls_nil rfl, ?_⟩
    obtain hidle | ⟨hwait, hcallback, hpending⟩ := h.state
    · exact .inl hidle
    · refine .inr ⟨hwait, hcallback, ?_⟩
      cases hpending with
      | handler hqueue hg =>
        refine .handler hqueue ⟨hod, hg.dir, hg.waiting, fun hs => ?_⟩
        obtain rfl := hsteady hs
        have hr := hg.receiving hs
        exact ⟨hr.seg, hr.length, hr.fits, hr.data, hr.answers, hr.counted⟩
      | failed qualifier stat rest hqueue hstat =>
        exact .failed qualifier stat rest hqueue hstat
      | settled isdu rest hqueue hsettled =>
        exact .settled isdu rest hqueue ⟨hsettled.complete, hsettled.heard, hsettled.code,
          hsettled.answers, hsettled.stored, hsettled.rest.state,
          fun h => hsettled.rest.rwcmd (hrwcmd h)⟩

theorem Idle.inv (h : s.Idle) : s.Inv :=
  ⟨h.odLen, sound_of_calls_nil h.al.2, .inl h.al.1⟩

/-- **Success means a positive response.** In every run in which nothing goes wrong with a segment,
a callback is told of success only after a complete positive response of its service, with the
payload of that response. -/
theorem success_is_positive {s₀ s : IsduServices κ} (h₀ : s₀.Idle)
    (h : Runs.Reaches IsduServices.step (fun s i => s.Regular i ∧ s.Unspoiled i) s₀ s) :
    s.SuccessIsPositive :=
  (h.invariant Inv h₀.inv fun _ _ hs hi => hs.step hi).sound

/-- A port in OPERATE with the given number of on-request data octets in each message. -/
def operating (od : ℕ) : IsduServices Unit where
  al := {}
  dl := {
    modeHandler := { state := .operate4, dlMode := .operate }
    messageHandler := { odLen := od }
    isduHandler := { state := .idle1, ihcmd := .active } }

/-- A master message and the answer of the device. -/
def messages (octets : List Octet) : List (IsduServicesInput Unit) :=
  [.call (.masterMessage 1000), .call (.deviceMessage 1000 octets)]

/-- Index 24 is read, and the device answers with two octets. -/
def twoOctetsRun : List (IsduServicesInput Unit) :=
  .request (.read 24 0 ()) :: messages [] ++ messages [0xD4, 0xAB, 0xCD, 0xB2, 0, 0, 0, 0] ++
    [.confirmation]

theorem success_is_positive_twoOctets :
    ∃ c ∈ (Runs.run step (operating 8) twoOctetsRun).al.calls, c.Success ∧
      ∃ isdu, CompleteIsdu isdu ∧ iservOf isdu = iserviceReadResponsePos ∧
        isdu <+: [0xD4, 0xAB, 0xCD, 0xB2, 0, 0, 0, 0] ∧ c.Delivers (payloadOf isdu) := by
  have hidle : (operating 8).Idle := ⟨⟨rfl, rfl⟩, .inr (.inr (.inl rfl))⟩
  have hrun : Runs.Admissible step (fun s i => s.Regular i ∧ s.Unspoiled i) (operating 8)
      twoOctetsRun := by decide +kernel
  have hsound := success_is_positive hidle (Runs.reaches_run hrun)
  obtain ⟨c, hc, hsuccess⟩ : ∃ c ∈ (Runs.run step (operating 8) twoOctetsRun).al.calls,
    c.Success := by decide +kernel
  obtain ⟨isdu, hisdu, hserv, hheard, hdelivers⟩ := hsound c hc hsuccess
  have hread : (Runs.run step (operating 8) twoOctetsRun).al.service.direction = .read := by
    decide +kernel
  have hoctets : (Runs.run step (operating 8) twoOctetsRun).heard =
      [0xD4, 0xAB, 0xCD, 0xB2, 0, 0, 0, 0] := by decide +kernel
  rw [hread] at hserv
  rw [hoctets] at hheard
  exact ⟨c, hc, hsuccess, isdu, hisdu, hserv, hheard, hdelivers⟩

/-- Index 24 is read, and the device answers with the error code zero. -/
def zeroErrorRun : List (IsduServicesInput Unit) :=
  .request (.read 24 0 ()) :: messages [] ++ messages [0xC4, 0, 0, 0xC4, 0, 0, 0, 0] ++
    [.confirmation]

/-- A negative response with the error code zero is reported as success. -/
theorem not_success_is_positive : ¬ ∀ s₀ s : IsduServices Unit, s₀.Idle →
    Runs.Reaches step (fun s i => s.Regular i) s₀ s → s.SuccessIsPositive := by
  intro hclaim
  have hidle : (operating 8).Idle := ⟨⟨rfl, rfl⟩, .inr (.inr (.inl rfl))⟩
  have hrun : Runs.Admissible step (fun s i => s.Regular i) (operating 8) zeroErrorRun := by
    decide +kernel
  obtain ⟨c, hc, hsuccess⟩ : ∃ c ∈ (Runs.run step (operating 8) zeroErrorRun).al.calls,
    c.Success := by decide +kernel
  obtain ⟨isdu, hisdu, hserv, hheard, -⟩ :=
    hclaim _ _ hidle (Runs.reaches_run hrun) c hc hsuccess
  have hread : (Runs.run step (operating 8) zeroErrorRun).al.service.direction = .read := by
    decide +kernel
  have hoctets : (Runs.run step (operating 8) zeroErrorRun).heard =
      [0xC4, 0, 0, 0xC4, 0, 0, 0, 0] := by decide +kernel
  rw [hread] at hserv
  rw [hoctets] at hheard
  cases isdu with
  | nil => exact absurd hserv (by decide)
  | cons o os =>
    obtain ⟨rest, hrest⟩ := hheard
    obtain rfl : o = 0xC4 := (List.cons.inj hrest).1
    exact absurd hserv (show ¬ ((0xC4 : Octet) >>> 4) &&& 0x0F = 0xD by decide)

/-- Two octets of a response that announces 209 pass for all of it, after a read of index 2 with
one octet per message. -/
example : ∃ c ∈ (Runs.run step (operating 1) (.request (.read 2 0 ()) :: messages [0] ++
    messages [0] ++ messages [0] ++ messages [0xD1] ++ messages [0xD1] ++
    [.confirmation])).al.calls, c.Success := by decide +kernel

end IsduServices

end IolHat
