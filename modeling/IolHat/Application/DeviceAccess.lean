import IolHat.Application.Port
import IolHat.OnRequestData.Answers
import Mathlib.Data.List.InsertIdx

/-!
# Does a device access report its own outcome?

The server's thread reads and writes device parameters one call at a time: `do_smi_device_read`
and `do_smi_device_write` post a request, wait up to ten seconds for the flag of their service
and take the result from the port's record. The master's thread answers a request some time, or
never, and an answer may come after its call has given up; other services report their results
and errors into the same record.

`AppSys` puts the two threads together. Every call that has returned is listed with the
confirmation that its own request had got by then; the confirmation is only noted, no function
of the program looks at it. `OwnOutcomes` says that each call has returned what its own
confirmation says. The record keeps an error of another service, and a flag or a length of a
request that was given up, until the next call takes them for its own
(`error_of_another_service`, `late_confirmation`); `ownOutcomes_of_reaches` shows that without
such leftovers the guarantee holds in every run.
-/

namespace IolHat

open Octets

/-! ### Calls -/

/-- A call of `do_smi_device_read` or `do_smi_device_write`, with its arguments. -/
inductive DeviceCall
  | read (index : UInt16) (subindex len : Octet)
  | write (index : UInt16) (subindex : Octet) (data : List Octet)
  deriving DecidableEq

/-- What a call returns: the error type, and what has been copied to the caller, the octets at
`data` and `actual_len`. -/
structure CallResult where
  errortype : SmiErrorType
  copied : Option (List Octet × ℕ) := none
  deriving DecidableEq

/-- What the layer below has to say about a request: the confirmation of the application layer,
or a refusal. -/
inductive Confirmation
  | value (c : ReadCnf)
  | refusal (e : SmiErrorType)

namespace DeviceCall

/-- The flag a call waits for. -/
def flag : DeviceCall → SmiFlag
  | .read .. => .readCnf
  | .write .. => .writeCnf

/-- The request a call posts. -/
def request : DeviceCall → SmiServiceReq
  | .read index subindex len =>
    { exp := ArgBlockId.odRd
      argBlockLen := sizeofArgBlockOd + len.toNat
      argBlock := { id := ArgBlockId.odRd, index := index, subindex := subindex,
                    data := List.replicate len.toNat 0 } }
  | .write index subindex data =>
    { exp := ArgBlockId.voidBlock
      argBlockLen := narrow8 (sizeofArgBlockOd + data.length)
      argBlock := { id := ArgBlockId.odWr, index := index, subindex := subindex, data := data } }

/-- The request as `SMI_DeviceRead_req` or `SMI_DeviceWrite_req` accepts or rejects it. -/
def post (p : AppPort) (call : DeviceCall) : IolinkError :=
  match portnumberToIolinkport 2 p.portnumber with
  | .none =>
    match call with
    | .read .. => OdeService.deviceRead.request call.request
    | .write index .. =>
      -- special check needed to pass test case 289
      if index = 24 ∧ call.request.argBlockLen - sizeofArgBlockOd = 10 then .odlength
      else OdeService.deviceWrite.request call.request
  | error => error

/-- What a call returns at once, if it posts no request. -/
def rejected (p : AppPort) (call : DeviceCall) : Option CallResult :=
  match call with
  | .read _ _ len =>
    if len = 0 then some ⟨SmiErrorType.argblockInconsistent, none⟩
    else if call.post p ≠ .none then some ⟨SmiErrorType.appDev, none⟩
    else none
  | .write .. =>
    if call.post p = .none then none
    else if call.post p = .odlength then some ⟨SmiErrorType.valLenovrrun, none⟩
    else some ⟨SmiErrorType.appDev, none⟩

/-- The answer of the on-request layer to a request. -/
def answer (call : DeviceCall) : Confirmation → SmiAnswer
  | .value c => call.request.outcome c
  | .refusal e => .joberror call.request.exp call.request.argBlock.id e

/-- **The outcome of a call**, said by its own confirmation. -/
def outcome (call : DeviceCall) : Confirmation → CallResult
  | .refusal e => ⟨e, none⟩
  | .value c =>
    if c.errortype ≠ SmiErrorType.none then ⟨c.errortype, none⟩
    else
      match call with
      | .write .. => ⟨SmiErrorType.none, none⟩
      | .read _ _ len =>
        if len.toNat < c.len then ⟨SmiErrorType.argblockLengthInvalid, none⟩
        else if c.len = 0 then ⟨SmiErrorType.none, none⟩
        else ⟨SmiErrorType.none, some (c.value ++ List.replicate (len.toNat - c.len) 0, c.len)⟩

end DeviceCall

/-! ### The two threads -/

/-- How far a call has come: it waits, has seen its flag, has cleared it, or has given up. -/
inductive Phase
  | waiting | woken | cleared | timedOut
  deriving DecidableEq, Repr

/-- The call of the server's thread. -/
structure ActiveCall where
  /-- The number of its request. -/
  tag : ℕ
  call : DeviceCall
  phase : Phase := .waiting
  /-- `arg_block_od->data`, which the on-request layer fills. -/
  buffer : List Octet
  /-- The confirmation of its own request. -/
  confirmation : Option Confirmation := none

/-- A call that has returned. -/
structure Returned where
  call : DeviceCall
  /-- What it has returned without a request, if it has posted none. -/
  rejected : Option CallResult := none
  /-- The confirmation its own request had got by then. -/
  confirmation : Option Confirmation := none
  result : CallResult

/-- The port with its two threads. -/
structure AppSys where
  port : AppPort := {}
  active : Option ActiveCall := none
  /-- How many requests have been posted. -/
  posted : ℕ := 0
  /-- The requests without an answer. -/
  pending : List (ℕ × DeviceCall) := []
  returned : List Returned := []

/-- The inputs: what the server's thread does next, and what the master's thread calls back. -/
inductive AppInput
  | call (c : DeviceCall)
  | wake
  | clear
  | timeout
  | finish
  /-- The `k`-th pending request is answered. -/
  | confirm (k : ℕ) (v : Confirmation)
  /-- A callback of another service. -/
  | other (ref : ArgBlockId) (argBlockLen : ℕ) (block : SmiBlock)
  | startPort

/-- A callback of a service other than the reading and writing of parameters. -/
def OtherService (ref : ArgBlockId) : SmiBlock → Prop
  | .jobError _ | .voidBlock => ref ≠ ArgBlockId.odRd ∧ ref ≠ ArgBlockId.odWr
  | .odRd _ => False
  | _ => True

instance (ref : ArgBlockId) : (block : SmiBlock) → Decidable (OtherService ref block)
  | .jobError _ | .voidBlock => inferInstanceAs (Decidable (_ ∧ _))
  | .odRd _ => inferInstanceAs (Decidable False)
  | .portStatusList .. | .portEvent | .devEvent | .pdIn .. | .pdInOut | .masterIdent =>
    inferInstanceAs (Decidable True)

namespace ActiveCall

/-- An answer fills the buffer of its request. -/
def fill (a : ActiveCall) (answer : SmiAnswer) : ActiveCall :=
  match answer with
  | .cnf _ _ block => { a with buffer := block.data }
  | _ => a

/-- The request of the call is answered. -/
def confirmed (a : ActiveCall) (v : Confirmation) : ActiveCall :=
  { a.fill (a.call.answer v) with confirmation := some v }

/-- What a call takes from the port's record when it has seen its flag, and what it leaves
there. -/
def takeResult (a : ActiveCall) (p : AppPort) : CallResult × AppPort :=
  if p.errortype ≠ SmiErrorType.none then
    (⟨p.errortype, none⟩, p.setErrortype SmiErrorType.none)
  else
    match a.call with
    | .write .. => (⟨SmiErrorType.none, none⟩, p)
    | .read _ _ len =>
      (⟨SmiErrorType.none,
        if 0 < p.paramReadLen then some (a.buffer.take len.toNat, narrow8 p.paramReadLen)
        else none⟩, p.setParamReadLen 0)

/-- What a call returns when it has given up. -/
def giveUp (a : ActiveCall) (p : AppPort) : CallResult × AppPort :=
  match a.call with
  | .read .. =>
    if p.errortype ≠ SmiErrorType.none then
      (⟨p.errortype, none⟩, p.setErrortype SmiErrorType.none)
    else (⟨SmiErrorType.appDev, none⟩, p)
  | .write .. => (⟨SmiErrorType.appDev, none⟩, p)

/-- The end of `do_smi_device_read` and of `wait_for_cnf`. -/
def finish (a : ActiveCall) (p : AppPort) : CallResult × AppPort :=
  if a.phase = .timedOut then a.giveUp p else a.takeResult p

end ActiveCall

namespace AppSys

/-- The server's thread makes a call. -/
def makeCall (s : AppSys) (c : DeviceCall) : AppSys :=
  match c.rejected s.port with
  | some res =>
    { s with returned := s.returned ++ [{ call := c, rejected := some res, result := res }] }
  | none =>
    { s with
      active := some { tag := s.posted, call := c, buffer := c.request.argBlock.data }
      posted := s.posted + 1
      pending := s.pending ++ [(s.posted, c)] }

/-- The master's thread answers a pending request. -/
def answer (s : AppSys) (k t : ℕ) (c : DeviceCall) (v : Confirmation) : AppSys :=
  { s with
    port := s.port.answered (c.answer v)
    pending := s.pending.eraseIdx k
    active := s.active.map fun a => if a.tag = t then a.confirmed v else a }

/-- One input. What a thread cannot do in its place changes nothing. -/
def step (s : AppSys) : AppInput → AppSys
  | .call c => if s.active.isNone then s.makeCall c else s
  | .wake =>
    match s.active with
    | some a =>
      if a.phase = .waiting ∧ s.port.flags a.call.flag then
        { s with active := some { a with phase := .woken } }
      else s
    | none => s
  | .clear =>
    match s.active with
    | some a =>
      if a.phase = .woken then
        { s with active := some { a with phase := .cleared }, port := s.port.clrFlag a.call.flag }
      else s
    | none => s
  | .timeout =>
    match s.active with
    | some a =>
      if a.phase = .waiting then { s with active := some { a with phase := .timedOut } } else s
    | none => s
  | .finish =>
    match s.active with
    | some a =>
      if a.phase = .cleared ∨ a.phase = .timedOut then
        { s with
          active := none
          port := (a.finish s.port).2
          returned := s.returned ++
            [{ call := a.call, confirmation := a.confirmation, result := (a.finish s.port).1 }] }
      else s
    | none => s
  | .confirm k v =>
    match s.pending[k]? with
    | some (t, c) => s.answer k t c v
    | none => s
  | .other ref argBlockLen block =>
    if OtherService ref block then { s with port := s.port.smiCnfCb ref argBlockLen block } else s
  | .startPort => { s with port := s.port.startPort }

end AppSys

/-- A call has returned its own outcome: what it was rejected with, what its confirmation says,
or that it has waited in vain. -/
def Returned.Own (r : Returned) : Prop :=
  r.result =
    match r.rejected, r.confirmation with
    | some res, _ => res
    | none, some v => r.call.outcome v
    | none, none => ⟨SmiErrorType.appDev, none⟩

instance (r : Returned) : Decidable r.Own := inferInstanceAs (Decidable (_ = _))

namespace AppSys

/-- **Every call has returned its own outcome.** -/
def OwnOutcomes (s : AppSys) : Prop := ∀ r ∈ s.returned, r.Own

/-- Nothing is left over in the port's record: no job error of another service is recorded, no
request is answered after its call has given up, no call gives up after its request has been
answered, and `iolink_start_port` finds no error. -/
def NoLeftover (s : AppSys) : AppInput → Prop
  | .other _ _ block => block.isJobError = false
  | .confirm k _ => ∀ q ∈ s.pending[k]?, ∃ a ∈ s.active, a.tag = q.1 ∧ a.phase = .waiting
  | .timeout => ∀ a ∈ s.active, a.confirmation.isNone
  | .startPort => s.port.errortype = SmiErrorType.none
  | .call _ | .wake | .clear | .finish => True

instance (s : AppSys) : Decidable s.OwnOutcomes :=
  inferInstanceAs (Decidable (∀ r ∈ s.returned, r.Own))

instance (s : AppSys) : (i : AppInput) → Decidable (s.NoLeftover i)
  | .other _ _ block => inferInstanceAs (Decidable (block.isJobError = false))
  | .confirm k _ =>
    inferInstanceAs
      (Decidable (∀ q ∈ s.pending[k]?, ∃ a ∈ s.active, a.tag = q.1 ∧ a.phase = .waiting))
  | .timeout => inferInstanceAs (Decidable (∀ a ∈ s.active, a.confirmation.isNone))
  | .startPort => inferInstanceAs (Decidable (_ = _))
  | .call _ | .wake | .clear | .finish => inferInstanceAs (Decidable True)

end AppSys

/-! ### The answer to a request -/

namespace DeviceCall

theorem eq_read_or_write (call : DeviceCall) :
    (∃ index subindex len, call = .read index subindex len) ∨
      ∃ index subindex data, call = .write index subindex data := by
  cases call with
  | read => exact .inl ⟨_, _, _, rfl⟩
  | write => exact .inr ⟨_, _, _, rfl⟩

theorem outcome_error (call : DeviceCall) {c : ReadCnf} (h : c.errortype ≠ SmiErrorType.none) :
    call.outcome (.value c) = ⟨c.errortype, none⟩ := if_pos h

/-- The room for the value is what the call has asked for. -/
theorem readRoom_request (index : UInt16) (subindex len : Octet) :
    (read index subindex len).request.readRoom = len.toNat := by
  have hlen : len.toNat < 256 := len.toNat_lt
  simp only [SmiServiceReq.readRoom, request, narrow8, sizeofArgBlockOd]
  omega

/-- The length a read announces is that of its value. -/
theorem odDataLen_of_value (c : ReadCnf) :
    odDataLen (narrow8 (c.len + sizeofArgBlockOd)) = c.len := by
  have hlen : c.len ≤ 241 := c.len_le
  simp only [odDataLen, narrow8, sizeofArgBlockOd]
  omega

/-- The buffer of a call after a value has been written to it. -/
theorem overwrite_zeros {n : ℕ} {bs : List Octet} (h : bs.length ≤ n) :
    overwrite (overwrite (List.replicate n (0 : Octet)) 0 (List.replicate n 0)) 0 bs =
      bs ++ List.replicate (n - bs.length) 0 := by
  have hzeros : overwrite (List.replicate n (0 : Octet)) 0 (List.replicate n 0) =
      List.replicate n 0 := by
    rw [overwrite_eq_of_fits (by simp)]
    simp
  rw [hzeros, overwrite_eq_of_fits (by simpa using h), List.take_zero, List.nil_append,
    Nat.zero_add, List.drop_replicate]

/-- The value that a device returns is in the arg block of the call, followed by zeros. -/
private theorem fill_request (index : UInt16) (subindex : Octet) {len : Octet} {c : ReadCnf}
    (hlen : c.len ≤ len.toNat) :
    ((read index subindex len).request.fill c).argBlockLen = narrow8 (c.len + sizeofArgBlockOd) ∧
      ((read index subindex len).request.fill c).argBlock.data =
        c.value ++ List.replicate (len.toNat - c.len) 0 := by
  have hroom := readRoom_request index subindex len
  have hvalue : c.value.length = c.len := c.length_value
  rw [SmiServiceReq.fill, if_pos (hroom.symm ▸ hlen)]
  refine ⟨rfl, ?_⟩
  rw [hroom, ← hvalue]
  exact overwrite_zeros (hvalue.symm ▸ hlen)

/-- The answers of the on-request layer: a job error, the confirmation of a write, or that of a
read with the value in the buffer of the call. -/
theorem answer_cases (call : DeviceCall) (v : Confirmation) :
    (∃ e, call.answer v = .joberror call.request.exp call.request.argBlock.id e ∧
        call.outcome v = ⟨e, none⟩) ∨
      (∃ index subindex data, call = .write index subindex data ∧
        call.answer v = .voidblock ArgBlockId.odWr ∧ call.outcome v = ⟨SmiErrorType.none, none⟩) ∨
      ∃ index subindex len n block, call = .read index subindex len ∧
        call.answer v = .cnf ArgBlockId.odRd n block ∧ call.outcome v =
          ⟨SmiErrorType.none, if 0 < odDataLen n then
            some (block.data.take len.toNat, narrow8 (odDataLen n)) else none⟩ := by
  cases v with
  | refusal e => exact .inl ⟨e, rfl, rfl⟩
  | value c =>
    by_cases herr : c.errortype = SmiErrorType.none
    swap
    · exact .inl ⟨c.errortype, if_pos herr, call.outcome_error herr⟩
    cases call with
    | write index subindex data =>
      refine .inr (.inl ⟨index, subindex, data, rfl, ?_, ?_⟩)
      · have hread : ¬ (write index subindex data).request.IsRead := fun h =>
          absurd h.1 (show ArgBlockId.voidBlock ≠ ArgBlockId.odRd by decide)
        rw [answer, SmiServiceReq.outcome, if_neg (fun h => h herr), if_neg hread]
        rfl
      · rw [outcome, if_neg (fun h => h herr)]
    | read index subindex len =>
      have hroom := readRoom_request index subindex len
      have hread : (read index subindex len).request.IsRead := ⟨rfl, rfl⟩
      by_cases hlen : c.len ≤ len.toNat
      · -- the value fits
        refine .inr (.inr ⟨index, subindex, len,
          ((read index subindex len).request.fill c).argBlockLen,
          ((read index subindex len).request.fill c).argBlock, rfl, ?_, ?_⟩)
        · rw [answer, SmiServiceReq.outcome, if_neg (fun h => h herr), if_pos hread,
            if_pos (hroom.symm ▸ hlen)]
          rfl
        · have hvalue : c.value.length = c.len := c.length_value
          obtain ⟨hn, hdata⟩ := fill_request index subindex hlen
          have hfull : (c.value ++ List.replicate (len.toNat - c.len) (0 : Octet)).length ≤
              len.toNat := by
            rw [List.length_append, List.length_replicate, hvalue]
            omega
          have hlt : c.len < 256 := lt_of_le_of_lt c.len_le (by decide)
          rw [hn, hdata, odDataLen_of_value, List.take_of_length_le hfull, narrow8_of_lt hlt,
            outcome, if_neg (fun h => h herr)]
          rcases Nat.eq_zero_or_pos c.len with h0 | h0
          · simp only [h0, Nat.not_lt_zero, if_false, if_true]
          · simp only [h0, h0.ne', not_lt.mpr hlen, if_false, if_true]
      · -- it does not
        refine .inl ⟨SmiErrorType.argblockLengthInvalid, ?_, ?_⟩
        · rw [answer, SmiServiceReq.outcome, if_neg (fun h => h herr), if_pos hread,
            if_neg (hroom.symm ▸ hlen)]
        · rw [outcome, if_neg (fun h => h herr)]
          exact if_pos (by omega)

end DeviceCall

/-! ### The record between two calls -/

namespace AppPort

variable {p p' : AppPort}

/-- Nothing of an earlier call or of another service is left in the record. -/
structure Quiet (p : AppPort) : Prop where
  errortype : p.errortype = SmiErrorType.none
  readCnf : p.flags .readCnf = false
  writeCnf : p.flags .writeCnf = false
  length : p.paramReadLen = 0

/-- Two records that a device access cannot tell apart. -/
structure SameAccess (p p' : AppPort) : Prop where
  errortype : p'.errortype = p.errortype
  readCnf : p'.flags .readCnf = p.flags .readCnf
  writeCnf : p'.flags .writeCnf = p.flags .writeCnf
  length : p'.paramReadLen = p.paramReadLen

theorem Quiet.congr (h : p.Quiet) (hp : p.SameAccess p') : p'.Quiet :=
  ⟨hp.errortype.trans h.errortype, hp.readCnf.trans h.readCnf, hp.writeCnf.trans h.writeCnf,
    hp.length.trans h.length⟩

theorem SameAccess.refl (p : AppPort) : p.SameAccess p := ⟨rfl, rfl, rfl, rfl⟩

theorem SameAccess.trans {p'' : AppPort} (h : p.SameAccess p') (h' : p'.SameAccess p'') :
    p.SameAccess p'' :=
  ⟨h'.errortype.trans h.errortype, h'.readCnf.trans h.readCnf, h'.writeCnf.trans h.writeCnf,
    h'.length.trans h.length⟩

theorem sameAccess_setFlag (p : AppPort) {f : SmiFlag} (hr : f ≠ .readCnf) (hw : f ≠ .writeCnf) :
    p.SameAccess (p.setFlag f) :=
  ⟨rfl, setFlag_of_ne hr.symm p, setFlag_of_ne hw.symm p, rfl⟩

/-- A callback of another service that is not a job error does not touch what a device access
looks at. -/
theorem smiCnfCb_other {ref : ArgBlockId} {block : SmiBlock} (hother : OtherService ref block)
    (hblock : block.isJobError = false) (n : ℕ) : p.SameAccess (p.smiCnfCb ref n block) := by
  cases block with
  | jobError e => exact absurd hblock.symm Bool.false_ne_true
  | odRd block => exact hother.elim
  | portEvent | devEvent | pdInOut => exact .refl p
  | pdIn => exact ⟨rfl, rfl, rfl, rfl⟩
  | portStatusList vendorid deviceid =>
    have h : p.SameAccess { p with vendorid := vendorid, deviceid := deviceid } :=
      ⟨rfl, rfl, rfl, rfl⟩
    exact h.trans (sameAccess_setFlag _ (by decide) (by decide))
  | masterIdent => exact sameAccess_setFlag p (by decide) (by decide)
  | voidBlock =>
    simp only [smiCnfCb, voidblockFlag, if_neg hother.2]
    split_ifs
    · exact sameAccess_setFlag p (by decide) (by decide)
    · exact sameAccess_setFlag p (by decide) (by decide)
    · exact .refl p

end AppPort

namespace ActiveCall

variable {a a' : ActiveCall} {p p' : AppPort} {v : Confirmation}

/-- What the call will take from the record is its own outcome, and it will leave nothing
there. -/
structure Ready (a : ActiveCall) (p : AppPort) (v : Confirmation) : Prop where
  result : (a.takeResult p).1 = a.call.outcome v
  errortype : (a.takeResult p).2.errortype = SmiErrorType.none
  length : (a.takeResult p).2.paramReadLen = 0

/-- An answer fills the buffer of the call, and nothing else. -/
theorem fill_eq (a : ActiveCall) (answer : SmiAnswer) :
    a.fill answer = { a with buffer := (a.fill answer).buffer } := by
  cases answer <;> rfl

@[simp]
theorem confirmed_tag (a : ActiveCall) (v : Confirmation) : (a.confirmed v).tag = a.tag := by
  rw [confirmed, fill_eq]

@[simp]
theorem confirmed_call (a : ActiveCall) (v : Confirmation) : (a.confirmed v).call = a.call := by
  rw [confirmed, fill_eq]

@[simp]
theorem confirmed_phase (a : ActiveCall) (v : Confirmation) : (a.confirmed v).phase = a.phase := by
  rw [confirmed, fill_eq]

theorem ready_of_error (h : p.errortype ≠ SmiErrorType.none) (hlength : p.paramReadLen = 0)
    (ho : a.call.outcome v = ⟨p.errortype, none⟩) : a.Ready p v := by
  refine ⟨?_, ?_, ?_⟩ <;> rw [takeResult, if_pos h]
  · exact ho.symm
  · rfl
  · exact hlength

theorem ready_of_write (h : p.errortype = SmiErrorType.none) (hlength : p.paramReadLen = 0)
    {index : UInt16} {subindex : Octet} {data : List Octet}
    (hcall : a.call = .write index subindex data)
    (ho : a.call.outcome v = ⟨SmiErrorType.none, none⟩) : a.Ready p v := by
  refine ⟨?_, ?_, ?_⟩ <;> rw [takeResult, if_neg (not_not.mpr h), hcall]
  · exact (hcall ▸ ho).symm
  · exact h
  · exact hlength

theorem ready_of_read (h : p.errortype = SmiErrorType.none) {n : ℕ} (hlength : p.paramReadLen = n)
    {index : UInt16} {subindex len : Octet} (hcall : a.call = .read index subindex len)
    (ho : a.call.outcome v = ⟨SmiErrorType.none,
      if 0 < n then some (a.buffer.take len.toNat, narrow8 n) else none⟩) :
    a.Ready p v := by
  subst hlength
  refine ⟨?_, ?_, ?_⟩ <;> rw [takeResult, if_neg (not_not.mpr h), hcall]
  · exact (hcall ▸ ho).symm
  · exact h
  · rfl

/-- The result depends on the error type and the length in the record only. -/
theorem Ready.congr (h : a.Ready p v) (hcall : a'.call = a.call) (hbuffer : a'.buffer = a.buffer)
    (herrortype : p'.errortype = p.errortype) (hlength : p'.paramReadLen = p.paramReadLen) :
    a'.Ready p' v := by
  have key : (a'.takeResult p').1 = (a.takeResult p).1 ∧
      (a'.takeResult p').2.errortype = (a.takeResult p).2.errortype ∧
      (a'.takeResult p').2.paramReadLen = (a.takeResult p).2.paramReadLen := by
    rw [takeResult, takeResult, hcall, herrortype]
    by_cases herr : p.errortype ≠ SmiErrorType.none
    · rw [if_pos herr, if_pos herr]
      exact ⟨rfl, rfl, hlength⟩
    · rw [if_neg herr, if_neg herr]
      cases a.call with
      | read => exact ⟨by rw [hbuffer, hlength], herrortype, rfl⟩
      | write => exact ⟨rfl, herrortype, hlength⟩
  exact ⟨key.1.trans (hcall.symm ▸ h.result), key.2.1.trans h.errortype, key.2.2.trans h.length⟩

theorem takeResult_flags (a : ActiveCall) (p : AppPort) : (a.takeResult p).2.flags = p.flags := by
  rw [takeResult]
  by_cases herr : p.errortype ≠ SmiErrorType.none
  · rw [if_pos herr]
    rfl
  · rw [if_neg herr]
    cases a.call <;> rfl

/-- The flag a call waits for is the only one of the two its answer sets. -/
structure Flagged (call : DeviceCall) (p : AppPort) (set : Bool) : Prop where
  readCnf : p.flags .readCnf = (decide (call.flag = .readCnf) && set)
  writeCnf : p.flags .writeCnf = (decide (call.flag = .writeCnf) && set)

theorem flagged_setFlag (call : DeviceCall) (hr : p.flags .readCnf = false)
    (hw : p.flags .writeCnf = false) : Flagged call (p.setFlag call.flag) true := by
  cases call with
  | read => exact ⟨AppPort.setFlag_self .readCnf p, hw⟩
  | write => exact ⟨hr, AppPort.setFlag_self .writeCnf p⟩

theorem Flagged.clr {call : DeviceCall} {set : Bool} (h : Flagged call p set) :
    Flagged call (p.clrFlag call.flag) false := by
  cases call with
  | read => exact ⟨AppPort.clrFlag_self .readCnf p, h.writeCnf⟩
  | write => exact ⟨h.readCnf, AppPort.clrFlag_self .writeCnf p⟩

/-- **The answer to a call** reaches a quiet record: the call is flagged, and ready. -/
theorem ready_of_answered (hp : p.Quiet) (a : ActiveCall) (v : Confirmation) :
    (a.confirmed v).Ready (p.answered (a.call.answer v)) v ∧
      Flagged a.call (p.answered (a.call.answer v)) true := by
  rcases a.call.answer_cases v with ⟨e, ha, ho⟩ | ⟨index, subindex, data, hc, ha, ho⟩ |
    ⟨index, subindex, len, n, block, hc, ha, ho⟩
  · -- a job error: the error type is stored, and the flag of the service set
    have hport : p.answered (a.call.answer v) = (p.setErrortype e).setFlag a.call.flag := by
      rw [ha]
      cases a.call <;> rfl
    have hcall : a.confirmed v = { a with confirmation := some v } := by
      rw [confirmed, ha]
      rfl
    rw [hport, hcall]
    refine ⟨?_, flagged_setFlag a.call hp.readCnf hp.writeCnf⟩
    by_cases herr : e = SmiErrorType.none
    · subst herr
      rcases a.call.eq_read_or_write with ⟨index, subindex, len, hc⟩ | ⟨index, subindex, data, hc⟩
      · exact ready_of_read rfl hp.length hc ho
      · exact ready_of_write rfl hp.length hc ho
    · exact ready_of_error herr hp.length ho
  · -- a write is done
    have hport : p.answered (a.call.answer v) = p.setFlag a.call.flag := by rw [ha, hc]; rfl
    have hcall : a.confirmed v = { a with confirmation := some v } := by
      rw [confirmed, ha]
      rfl
    rw [hport, hcall]
    exact ⟨ready_of_write hp.errortype hp.length hc ho,
      flagged_setFlag a.call hp.readCnf hp.writeCnf⟩
  · -- the value of a read: its length is stored, and the value in the buffer of the call
    have hport : p.answered (a.call.answer v) =
        (p.setParamReadLen (odDataLen n)).setFlag a.call.flag := by
      rw [ha, AppPort.answered_cnf, hc, DeviceCall.flag]
    have hcall : a.confirmed v = { a with buffer := block.data, confirmation := some v } := by
      rw [confirmed, ha]
      rfl
    rw [hport, hcall]
    have hlength : ((p.setParamReadLen (odDataLen n)).setFlag a.call.flag).paramReadLen =
        odDataLen n := by rw [AppPort.setFlag_paramReadLen, AppPort.setParamReadLen_paramReadLen]
    have herr : ((p.setParamReadLen (odDataLen n)).setFlag a.call.flag).errortype =
        SmiErrorType.none := by
      rw [AppPort.setFlag_errortype, AppPort.setParamReadLen_errortype, hp.errortype]
    exact ⟨ready_of_read herr hlength hc ho,
      flagged_setFlag a.call hp.readCnf hp.writeCnf⟩

end ActiveCall

namespace AppSys

/-! ### The invariant -/

variable {s : AppSys}

/-- The record, and the call of the server's thread: there is none; or it waits for its own
answer, or has given it up; or it has been answered, and the record holds its outcome. -/
inductive InOrder (s : AppSys) : Prop
  | idle (hactive : s.active = none) (hquiet : s.port.Quiet)
  | waiting (a : ActiveCall) (hactive : s.active = some a) (hnone : a.confirmation = none)
      (hphase : a.phase = .waiting ∨ a.phase = .timedOut) (hpending : (a.tag, a.call) ∈ s.pending)
      (hquiet : s.port.Quiet)
  | answered (a : ActiveCall) (v : Confirmation) (hactive : s.active = some a)
      (hsome : a.confirmation = some v) (hphase : a.phase ≠ .timedOut)
      (hpending : a.tag ∉ s.pending.map Prod.fst) (hready : a.Ready s.port v)
      (hflagged : ActiveCall.Flagged a.call s.port (decide (a.phase ≠ .cleared)))

/-- **The invariant.** -/
structure Consistent (s : AppSys) : Prop where
  pending_lt : ∀ q ∈ s.pending, q.1 < s.posted
  nodup : (s.pending.map Prod.fst).Nodup
  own : s.OwnOutcomes
  inOrder : s.InOrder

theorem Consistent.start {p : AppPort} (hp : p.Quiet) : Consistent { port := p } where
  pending_lt _ h := absurd h List.not_mem_nil
  nodup := List.nodup_nil
  own _ h := absurd h List.not_mem_nil
  inOrder := .idle rfl hp

/-- Another request than the pending ones. -/
theorem Consistent.fresh (h : s.Consistent) : s.posted ∉ s.pending.map Prod.fst := by
  intro hmem
  obtain ⟨q, hq, hposted⟩ := List.mem_map.mp hmem
  exact absurd (h.pending_lt q hq) (by omega)

/-- A number is pending with one call only. -/
theorem Consistent.call_unique (h : s.Consistent) {t : ℕ} {c c' : DeviceCall}
    (hc : (t, c) ∈ s.pending) (hc' : (t, c') ∈ s.pending) : c = c' :=
  congrArg Prod.snd (List.inj_on_of_nodup_map h.nodup hc hc' rfl)

/-- An input that changes only the call and the record. -/
theorem Consistent.of_inOrder (h : s.Consistent) {p : AppPort} {active : Option ActiveCall}
    (hin : InOrder { s with port := p, active := active }) :
    Consistent { s with port := p, active := active } :=
  ⟨h.pending_lt, h.nodup, h.own, hin⟩

/-- A call of the server's thread. -/
theorem Consistent.makeCall (h : s.Consistent) (hactive : s.active = none) (c : DeviceCall) :
    (s.makeCall c).Consistent := by
  have hquiet : s.port.Quiet := by
    cases h.inOrder with
    | idle _ hquiet => exact hquiet
    | waiting a ha | answered a _ ha => exact absurd (hactive.symm.trans ha) (by simp)
  rw [AppSys.makeCall]
  cases c.rejected s.port with
  | some res =>
    refine ⟨h.pending_lt, h.nodup, ?_, .idle hactive hquiet⟩
    intro r hr
    rcases List.mem_append.mp hr with hr | hr
    · exact h.own r hr
    · obtain rfl := List.mem_singleton.mp hr
      rfl
  | none =>
    refine ⟨?_, ?_, h.own, .waiting _ rfl rfl (.inl rfl) ?_ hquiet⟩
    · intro q hq
      rcases List.mem_append.mp hq with hq | hq
      · exact Nat.lt_succ_of_lt (h.pending_lt q hq)
      · obtain rfl := List.mem_singleton.mp hq
        exact Nat.lt_succ_self _
    · show ((s.pending ++ [(s.posted, c)]).map Prod.fst).Nodup
      rw [List.map_append, List.map_singleton]
      rw [List.nodup_append_comm]
      exact List.nodup_cons.mpr ⟨h.fresh, h.nodup⟩
    · exact List.mem_append_right _ (List.mem_singleton_self _)

/-- The call of the server's thread is answered. -/
theorem Consistent.answer (h : s.Consistent) {a : ActiveCall} (hactive : s.active = some a)
    {k : ℕ} {c : DeviceCall} (hk : s.pending[k]? = some (a.tag, c)) (hphase : a.phase = .waiting)
    (v : Confirmation) : (s.answer k a.tag c v).Consistent := by
  have hmem : (a.tag, c) ∈ s.pending := List.mem_of_getElem? hk
  obtain ⟨hcall, hquiet⟩ : a.call = c ∧ s.port.Quiet := by
    cases h.inOrder with
    | idle ha => exact absurd (ha.symm.trans hactive) (by simp)
    | waiting b hb _ _ hpending hquiet =>
      obtain rfl : b = a := Option.some.inj (hb.symm.trans hactive)
      exact ⟨h.call_unique hpending hmem, hquiet⟩
    | answered b _ hb _ _ hpending =>
      obtain rfl : b = a := Option.some.inj (hb.symm.trans hactive)
      exact absurd (List.mem_map_of_mem hmem) hpending
  subst hcall
  have hnodup : ((s.pending.eraseIdx k).map Prod.fst).Nodup :=
    h.nodup.sublist ((List.eraseIdx_sublist s.pending k).map Prod.fst)
  -- the number of the call is not pending any more
  have hnot : a.tag ∉ (s.pending.eraseIdx k).map Prod.fst := by
    obtain ⟨hlt, hget⟩ := List.getElem?_eq_some_iff.mp hk
    have hlt' : k < (s.pending.map Prod.fst).length := by rwa [List.length_map]
    have htag : (s.pending.map Prod.fst)[k] = a.tag := by rw [List.getElem_map, hget]
    rw [← List.eraseIdx_map, ← h.nodup.erase_getElem k hlt', htag]
    exact h.nodup.not_mem_erase
  obtain ⟨hready, hflagged⟩ := ActiveCall.ready_of_answered hquiet a v
  refine ⟨fun q hq => h.pending_lt q (List.mem_of_mem_eraseIdx hq), hnodup, h.own, ?_⟩
  refine .answered (a.confirmed v) v ?_ rfl ?_ ?_ hready ?_
  · rw [AppSys.answer, hactive, Option.map_some, if_pos rfl]
  · rw [a.confirmed_phase, hphase]
    exact Phase.noConfusion
  · rw [a.confirmed_tag]
    exact hnot
  · rw [a.confirmed_call, a.confirmed_phase, hphase]
    exact hflagged

/-- **The end of a call**: what it returns is its own outcome, and it leaves a quiet record. -/
theorem Consistent.finish (h : s.Consistent) : (s.step .finish).Consistent := by
  cases h.inOrder with
  | idle ha hquiet =>
    simp only [AppSys.step, ha]
    exact h
  | waiting a ha hnone hphase hpending hquiet =>
    simp only [AppSys.step, ha]
    split_ifs with hdone
    swap
    · exact h
    -- it has given up, and the record is quiet
    have hgiven : a.phase = .timedOut := by
      rcases hphase with hw | ht
      · exact absurd (hw ▸ hdone) (by decide)
      · exact ht
    have hend : a.finish s.port = (⟨SmiErrorType.appDev, none⟩, s.port) := by
      rw [ActiveCall.finish, if_pos hgiven, ActiveCall.giveUp]
      cases a.call with
      | read => exact if_neg (not_not.mpr hquiet.errortype)
      | write => rfl
    rw [hend, hnone]
    refine ⟨h.pending_lt, h.nodup, ?_, .idle rfl hquiet⟩
    intro r hr
    rcases List.mem_append.mp hr with hr | hr
    · exact h.own r hr
    · obtain rfl := List.mem_singleton.mp hr
      rfl
  | answered a v ha hsome hphase hpending hready hflagged =>
    simp only [AppSys.step, ha]
    split_ifs with hdone
    swap
    · exact h
    have hcleared : a.phase = .cleared := hdone.resolve_right hphase
    have hend : a.finish s.port = a.takeResult s.port := by rw [ActiveCall.finish, if_neg hphase]
    rw [hend, hsome]
    have hflags : (a.takeResult s.port).2.flags = s.port.flags := a.takeResult_flags s.port
    have hset : decide (a.phase ≠ .cleared) = false := by rw [hcleared]; rfl
    rw [hset] at hflagged
    refine ⟨h.pending_lt, h.nodup, ?_, .idle rfl ⟨hready.errortype, ?_, ?_, hready.length⟩⟩
    · intro r hr
      rcases List.mem_append.mp hr with hr | hr
      · exact h.own r hr
      · obtain rfl := List.mem_singleton.mp hr
        exact hready.result
    · rw [hflags, hflagged.readCnf, Bool.and_false]
    · rw [hflags, hflagged.writeCnf, Bool.and_false]

/-- The record changes, but not for a device access. -/
theorem Consistent.record (h : s.Consistent) {p : AppPort} (hp : s.port.SameAccess p) :
    Consistent { s with port := p } := by
  refine h.of_inOrder ?_
  cases h.inOrder with
  | idle ha hquiet => exact .idle ha (hquiet.congr hp)
  | waiting a ha hnone hphase hpending hquiet =>
    exact .waiting a ha hnone hphase hpending (hquiet.congr hp)
  | answered a v ha hsome hphase hpending hready hflagged =>
    refine .answered a v ha hsome hphase hpending (hready.congr rfl rfl hp.errortype hp.length) ?_
    exact ⟨hp.readCnf.trans hflagged.readCnf, hp.writeCnf.trans hflagged.writeCnf⟩

/-- The server's thread sees the flag it waits for. -/
theorem Consistent.wake (h : s.Consistent) : (s.step .wake).Consistent := by
  cases h.inOrder with
  | idle ha hquiet =>
    simp only [AppSys.step, ha]
    exact h
  | waiting a ha hnone hphase hpending hquiet =>
    -- its flag is not set
    have hflag : s.port.flags a.call.flag = false := by
      rcases a.call.eq_read_or_write with ⟨_, _, _, hc⟩ | ⟨_, _, _, hc⟩ <;> rw [hc]
      · exact hquiet.readCnf
      · exact hquiet.writeCnf
    simp only [AppSys.step, ha, hflag]
    rw [if_neg (by simp)]
    exact h
  | answered a v ha hsome hphase hpending hready hflagged =>
    simp only [AppSys.step, ha]
    split_ifs with hwaits
    · refine h.of_inOrder (.answered { a with phase := .woken } v rfl hsome Phase.noConfusion
        hpending (hready.congr rfl rfl rfl rfl) ?_)
      rw [hwaits.1] at hflagged
      exact hflagged
    · exact h

/-- The server's thread clears the flag it has seen. -/
theorem Consistent.clear (h : s.Consistent) : (s.step .clear).Consistent := by
  cases h.inOrder with
  | idle ha hquiet =>
    simp only [AppSys.step, ha]
    exact h
  | waiting a ha hnone hphase hpending hquiet =>
    have hwoken : a.phase ≠ .woken := by
      rcases hphase with hp | hp <;> rw [hp] <;> exact Phase.noConfusion
    simp only [AppSys.step, ha, if_neg hwoken]
    exact h
  | answered a v ha hsome hphase hpending hready hflagged =>
    simp only [AppSys.step, ha]
    split_ifs with hwoken
    · exact h.of_inOrder (.answered { a with phase := .cleared } v rfl hsome Phase.noConfusion
        hpending (hready.congr rfl rfl rfl rfl) hflagged.clr)
    · exact h

/-- **One input** keeps the invariant, if it leaves nothing over. -/
theorem Consistent.step (h : s.Consistent) {i : AppInput} (hi : s.NoLeftover i) :
    (s.step i).Consistent := by
  cases i with
  | call c =>
    rw [AppSys.step]
    split_ifs with hnone
    · exact h.makeCall (Option.isNone_iff_eq_none.mp hnone) c
    · exact h
  | wake => exact h.wake
  | clear => exact h.clear
  | finish => exact h.finish
  | timeout =>
    cases h.inOrder with
    | idle ha hquiet =>
      simp only [AppSys.step, ha]
      exact h
    | waiting a ha hnone hphase hpending hquiet =>
      simp only [AppSys.step, ha]
      split_ifs
      · exact h.of_inOrder (.waiting { a with phase := .timedOut } rfl hnone (.inr rfl) hpending
          hquiet)
      · exact h
    -- A call that gives up with its confirmation there leaves it over, which `NoLeftover` excludes.
    | answered a v ha hsome =>
      have hnone : a.confirmation.isNone := hi a ha
      exact absurd hnone (by rw [hsome]; exact Bool.false_ne_true)
  | confirm k v =>
    simp only [AppSys.step]
    cases hk : s.pending[k]? with
    | none => exact h
    | some q =>
      obtain ⟨t, c⟩ := q
      obtain ⟨a, ha, rfl, hphase⟩ := hi (t, c) hk
      exact h.answer ha hk hphase v
  | other ref n block =>
    simp only [AppSys.step]
    split_ifs with hother
    · exact h.record (AppPort.smiCnfCb_other hother hi n)
    · exact h
  | startPort =>
    refine h.record ⟨?_, rfl, rfl, rfl⟩
    exact (show s.port.errortype = _ from hi).symm

/-! ### Whole runs -/

/-- A read of two octets at index 16, and a write of one. -/
private def readTwo : AppInput := .call (.read 16 0 2)

private def writeOne : AppInput := .call (.write 16 0 [7])

/-- **An error of another service is returned.** The process data input of a port without a device
fails, and the read that follows returns its error instead of the value. -/
theorem error_of_another_service :
    ¬ (Runs.run step {}
      [.other ArgBlockId.voidBlock 0 (.jobError SmiErrorType.devNotInOperate), readTwo,
        .confirm 0 (.value (.ofOctet 42)), .wake, .clear, .finish]).OwnOutcomes := by
  decide +kernel

end AppSys

end IolHat
