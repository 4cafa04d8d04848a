import IolHat.Application.Replies
import IolHat.ApplicationLayer.Services
import IolHat.DataLink.IsduEncoding
import IolHat.OnRequestData.Answers

/-!
# The way of a write request

The value of a `CMD_WRITE` frame passes four layers before it is on the wire: `do_smi_device_write`
puts it into an arg block, On-request Data Exchange takes it out again, the application layer makes
a value list of it, and the data link layer encodes that. Every layer keeps the length in a
`uint8_t` of its own. `fate` follows a request through the layers, each in whatever state it is in
when the request reaches it.

`delivers_iff` says when the client's octets arrive. Nobody looks at the length: the process does
not survive the encoding of a value that makes the ISDU longer than 241 octets (`fate_of_long`), and
one of more than 250 octets makes the arg block wrap around.
-/

namespace IolHat

open Octets IsduFormat

/-! ### The request of a frame -/

/-- The arguments of `do_smi_device_write`; `len` is the length of `data`. -/
structure WriteArgs where
  index : UInt16
  subindex : Octet
  data : List Octet
  length_lt : data.length < 256

/-- A `CMD_WRITE` frame that the server accepts. -/
structure Frame.IsWrite (f : Frame) : Prop where
  command : octetOf f.octets 0 = Cmd.write
  port : octetOf f.octets 1 ≤ 1
  length : f.octets.length = 6 + (octetOf f.octets 5).toNat

/-- What the client asks for with a frame. -/
def Frame.writeRequest (f : Frame) : Request where
  direction := .write
  index := .ofNat ((octetOf f.octets 2).toNat * 256 + (octetOf f.octets 3).toNat)
  subindex := octetOf f.octets 4
  data := f.octets.drop 6

/-- The arguments that `CMD_WRITE` passes to `do_smi_device_write`. -/
def Server.writeArgs (s : Server) : WriteArgs where
  index := s.index
  subindex := s.buffer.get 4
  data := s.buffer.slice 6 (s.buffer.get 5).toNat
  length_lt := Nat.lt_of_le_of_lt (List.length_take_le _ _) (s.buffer.get 5).toNat_lt

namespace WriteArgs

variable (w : WriteArgs)

/-! ### The layers -/

/-- `arg_block_len` of `do_smi_device_write`, a `uint8_t`. -/
def argBlockLen : ℕ := narrow8 (sizeofArgBlockOd + w.data.length)

/-- The service that `SMI_DeviceWrite_req` posts. -/
def smiReq (tag : ℕ) : SmiServiceReq where
  exp := ArgBlockId.voidBlock
  argBlockLen := w.argBlockLen
  argBlock := ⟨ArgBlockId.odWr, w.index, w.subindex, w.data⟩
  tag := tag

/-- The arguments that `SMI_DeviceWrite_req` refuses: ten octets for index 24. -/
def OdLength : Prop := w.index = 24 ∧ w.argBlockLen = sizeofArgBlockOd + 10

instance : Decidable w.OdLength := inferInstanceAs (Decidable (_ ∧ _))

end WriteArgs

/-- What becomes of a request. -/
inductive WriteFate
  /-- The client is told an error. -/
  | refused (e : SmiErrorType)
  /-- An octet is written to the direct parameter page. -/
  | direct (address : UInt16) (value : Option Octet)
  /-- A value list has been accepted by the data link layer. -/
  | isdu (vl : IsduVl) (dl : Dl)
  /-- The process is killed by a signal. -/
  | crash
  /-- Nothing comes of it. -/
  | lost

/-- `DL_ISDUTransport_req`, and what the application layer makes of a refusal. -/
def dlFate {κ : Type} (al : Al κ) (dl : Dl) (vl : IsduVl) : WriteFate :=
  match (dl.isduTransportReq vl).1 with
  | none => .crash
  | some .none => .isdu vl (dl.isduTransportReq vl).2
  | some _ =>
    match (dl.isduTransportReq vl).2.out.getLast? with
    | some (.isduTransportCnf data length qualifier errinfo) =>
      match ((al.isduTransportCnf data length qualifier errinfo).handle
          (.isduTransportCnf qualifier errinfo)).calls with
      | [.writeCnf _ e] => .refused e
      | _ => .lost
    | _ => .lost

/-- `AL_Write_req`. -/
def alFate {κ : Type} (al : Al κ) (k : κ) (dl : Dl) (index : UInt16) (subindex : Octet)
    (data : List Octet) : WriteFate :=
  let al := al.handle (.service (.write index subindex data k))
  match al.calls with
  | [.writeCnf _ e] => .refused e
  | [.writeParamReq address value] => .direct address value
  | [.isduTransportReq vl] => dlFate al dl vl
  | _ => .lost

/-- The job of On-request Data Exchange. -/
def odeFate {κ : Type} (ode : Ode) (al : Al κ) (k : κ) (dl : Dl) (r : SmiServiceReq) : WriteFate :=
  match (ode.newJob.smiRwReqCb r).calls with
  | [.answer _ (.joberror _ _ e)] => .refused e
  | [.alWriteReq _ index subindex data] => alFate al k dl index subindex data
  | _ => .lost

/-- `do_smi_device_write`. -/
def WriteArgs.fate {κ : Type} (w : WriteArgs) (ode : Ode) (al : Al κ) (k : κ) (dl : Dl) :
    WriteFate :=
  if w.OdLength then .refused SmiErrorType.valLenovrrun
  else odeFate ode al k dl (w.smiReq 0)

/-! ### Delivery -/

/-- The ISDU that has been built carries the request, inside the buffer, and none of its lengths
has wrapped around. -/
structure Carries (req : Request) (dl : Dl) (vl : IsduVl) (dl' : Dl) : Prop where
  parsed : parse dl'.isduOctets = some req
  fits : dl'.isduHandler.totalIsduLen ≤ isduMaxSize
  inside : dl'.faults = dl.faults
  dataoffset : narrow8 (vl.front.length + vl.data.length) = vl.front.length + vl.data.length
  totalIsduLen : narrow8 (vl.data.length + vl.totalOverhead) = vl.data.length + vl.totalOverhead

/-- The request is refused, or an ISDU is built that carries it. -/
def WriteFate.Delivered (req : Request) (dl : Dl) : WriteFate → Prop
  | .refused e => e ≠ SmiErrorType.none
  | .isdu vl dl' => Carries req dl vl dl'
  | .direct _ _ => False
  | .crash => False
  | .lost => False

/-- **Delivery.** No length of the arg block wraps around, and the request is refused or an ISDU is
built that carries it. -/
structure Delivers {κ : Type} (req : Request) (w : WriteArgs) (ode : Ode) (al : Al κ) (k : κ)
    (dl : Dl) : Prop where
  argBlockLen : w.argBlockLen = sizeofArgBlockOd + w.data.length
  argBlockDataLen : (w.smiReq 0).writeLen = w.data.length
  fate : (w.fate ode al k dl).Delivered req dl

/-- The layers that refuse a request for a reason of their own. -/
def Refused {κ : Type} (req : Request) (ode : Ode) (al : Al κ) (dl : Dl) : Prop :=
  req.index = 24 ∧ req.data.length = 10 ∨
    ode.state ≠ .odActive ∨
    al.odState = .awaitDlParamCnf ∨ al.odState = .awaitDlIsduCnf ∨
    al.odState = .onReqIdle ∧ (req.index = 0 ∨ 2 ≤ req.index ∧
      (dl.modeHandler.state = .idle0 ∨ dl.modeHandler.state = .estcom1 ∨
        dl.isduHandler.state ≠ .idle1))

/-- **When the octets arrive**: the value has at most 250 octets, and some layer refuses the
request, or it is for an index from 2 on and its ISDU has at most 241 octets. -/
def Deliverable {κ : Type} (req : Request) (ode : Ode) (al : Al κ) (dl : Dl) : Prop :=
  req.data.length ≤ 250 ∧ (Refused req ode al dl ∨
    al.odState = .onReqIdle ∧ 2 ≤ req.index ∧ req.size ≤ isduMaxSize)

instance {κ : Type} (req : Request) (ode : Ode) (al : Al κ) (dl : Dl) :
    Decidable (Refused req ode al dl) := inferInstanceAs (Decidable (_ ∨ _ ∨ _ ∨ _ ∨ _))

instance {κ : Type} (req : Request) (ode : Ode) (al : Al κ) (dl : Dl) :
    Decidable (Deliverable req ode al dl) := inferInstanceAs (Decidable (_ ∧ (_ ∨ _)))

/-! ### The layers, one by one -/

variable {κ : Type} {ode : Ode} {al : Al κ} {k : κ} {dl : Dl} {w : WriteArgs}

/-- A write that On-request Data Exchange cannot pass on is refused. -/
theorem odeFate_refused (al : Al κ) (k : κ) (dl : Dl) (h : ode.state ≠ .odActive)
    {r : SmiServiceReq} (hr : r.IsWrite) :
    ∃ e, e ≠ SmiErrorType.none ∧ odeFate ode al k dl r = .refused e := by
  have herr : ∀ e : OdeEvent, Ode.odErrType e r.argBlock.id ≠ SmiErrorType.none := by
    intro e
    rw [hr.2, Ode.odErrType]
    split_ifs <;> decide
  cases hs : ode.state with
  | odActive => exact absurd hs h
  | inactive =>
    refine ⟨_, herr .smiDevRw1, ?_⟩
    have hrow : Ode.fsm.row (ode.newJob.setBusy r) .smiDevRw1 =
        some ⟨.smiDevRw1, .inactive, .smiOdErr⟩ := Fsm.Machine.row_of_state hs rfl
    have hcb : ode.newJob.smiRwReqCb r =
        ((ode.newJob.setBusy r).enter .inactive).smiOdErr .smiDevRw1 := by
      simp only [Ode.smiRwReqCb, Ode.newJob_state, hs]
      exact Fsm.Machine.drive_of_row_idle hrow rfl
    rw [odeFate, hcb]
    simp [Ode.smiOdErr, Ode.answer]
  | odBlocked =>
    refine ⟨_, herr .smiDevRw6, ?_⟩
    have hrow : Ode.fsm.row (ode.newJob.setBusy r) .smiDevRw6 =
        some ⟨.smiDevRw6, .odBlocked, .smiOdErr⟩ := Fsm.Machine.row_of_state hs rfl
    have hcb : ode.newJob.smiRwReqCb r =
        ((ode.newJob.setBusy r).enter .odBlocked).smiOdErr .smiDevRw6 := by
      simp only [Ode.smiRwReqCb, Ode.newJob_state, hs]
      exact Fsm.Machine.drive_of_row_idle hrow rfl
    rw [odeFate, hcb]
    simp [Ode.smiOdErr, Ode.answer]

/-- A write that is passed on keeps its address, and as many octets as the length of the arg block
says. -/
theorem odeFate_passed (h : ode.state = .odActive) {r : SmiServiceReq} (hr : r.IsWrite) :
    odeFate ode al k dl r = alFate al k dl r.argBlock.index r.argBlock.subindex
      (r.argBlock.data.take r.writeLen) := by
  have hstate : ode.newJob.state = .odActive := h
  rw [odeFate, Ode.smiRwReqCb_write hstate hr]
  rfl

theorem alFate_busy (h : al.odState = .awaitDlParamCnf ∨ al.odState = .awaitDlIsduCnf)
    (index : UInt16) (subindex : Octet) (data : List Octet) :
    alFate al k dl index subindex data = .refused SmiErrorType.serviceTempUnavailable := by
  have hcalls := (Al.handle_busy h (.write index subindex data k)).2
  rw [alFate, hcalls]
  rfl

theorem alFate_index_0 (h : al.odState = .onReqIdle) (subindex : Octet) (data : List Octet) :
    alFate al k dl 0 subindex data = .refused SmiErrorType.appDev := by
  have hcalls := (Al.handle_argErr h (r := .write 0 subindex data k) rfl).2
  rw [alFate, hcalls]

theorem alFate_index_1 (k : κ) (dl : Dl) (h : al.odState = .onReqIdle) (subindex : Octet)
    (data : List Octet) :
    ∃ value, alFate al k dl 1 subindex data = .direct 1 value := by
  have hcalls := Al.handle_write_1 h subindex data k
  rw [alFate, hcalls]
  exact ⟨_, rfl⟩

/-- A layer that is building a service hears of no other. -/
theorem alFate_building (h : al.odState = .buildDlService) (index : UInt16) (subindex : Octet)
    (data : List Octet) : alFate al k dl index subindex data = .lost := by
  have hrow : Al.fsm.row (al.newJob.modService ({ · with
      jobReq := some (.write index subindex data k) })) .service = none :=
    Fsm.Machine.row_of_state (M := Al.fsm) h rfl
  rw [alFate, Al.handle, Al.readWriteCb, Al.odEvent_of_none hrow]
  rfl

/-- The value list of a write. -/
def writeValuelist (index : UInt16) (subindex : Octet) (data : List Octet)
    (h : data.length < 256) : IsduVl := ⟨index, subindex, data, h, .write⟩

/-- The data link layer refuses a request, and the client is told. -/
theorem dlFate_refused (hs : al.odState = .awaitDlIsduCnf) (hk : al.service.callback = some k)
    (hd : al.service.direction = .write) {vl : IsduVl} (h : ¬ dl.TakesIsdu vl) :
    dlFate al dl vl = .refused SmiErrorType.appDev := by
  obtain ⟨⟨error, herror, hresult⟩, errinfo, hmem, hdl⟩ := dl.isduTransportReq_of_refused vl h
  have hout : (dl.isduTransportCnfNull 0 errinfo).out.getLast? =
      some (.isduTransportCnf none 0 0 errinfo) := by
    rw [Dl.isduTransportCnfNull, Dl.emit_out, List.getLast?_concat]
  have hnull : al.isduTransportCnf none 0 0 errinfo = al := rfl
  have hcalls := (Al.handle_isduTransportCnf hs hk 0 errinfo).2
  have herrortype : (al.service.confirmed 0 errinfo).errToErrortype true = SmiErrorType.appDev := by
    simp only [List.mem_cons, List.not_mem_nil, or_false] at hmem
    rcases hmem with rfl | rfl | rfl
    · exact Al.errToErrortype_of_noService hd rfl nofun
    · exact Al.errToErrortype_of_noService hd rfl nofun
    · exact Al.errToErrortype_of_noService hd rfl nofun
  rw [dlFate, hresult, hdl]
  cases error with
  | none => exact absurd rfl herror
  | _ => simp only [hout, hnull, hcalls, Al.isduCnf, AlService.confirmed_direction, hd, herrortype]

/-- An idle application layer asks for an ISDU with all the octets. -/
theorem alFate_isdu (h : al.odState = .onReqIdle) {index : UInt16} (hindex : 2 ≤ index)
    (subindex : Octet) {data : List Octet} (hlen : data.length < 256) :
    let vl := writeValuelist index subindex data hlen
    alFate al k dl index subindex data =
      if dl.TakesIsdu vl then
        if vl.Kills then .crash else .isdu vl (dl.isduTransportReq vl).2
      else .refused SmiErrorType.appDev := by
  intro vl
  obtain ⟨r, hr⟩ : ∃ r, r = AlRwReq.write index subindex data k := ⟨_, rfl⟩
  have hlow : ¬ index = 1 := by
    rintro rfl
    exact absurd hindex (by decide)
  have hevent : Al.requestEvent r = .isduWrite := by
    rw [hr, Al.requestEvent, if_neg hlow, if_pos hindex]
  obtain ⟨hstate, hservice, hcalls⟩ := Al.handle_isdu h (d := .write) hevent
  have hvl : (Al.serviceOf ({ al.service with jobReq := some r }) r).valuelist .write = vl := by
    have hnat : (UInt8.ofNat data.length).toNat = data.length := by
      rw [UInt8.toNat_ofNat']
      exact Nat.mod_eq_of_lt hlen
    simp [hr, Al.serviceOf, AlService.valuelist, hnat, vl, writeValuelist]
  rw [hvl] at hcalls
  rw [alFate, ← hr, hcalls]
  by_cases htakes : dl.TakesIsdu vl
  · rw [if_pos htakes]
    simp only [dlFate, dl.isduTransportReq_result_of_takes vl htakes]
    split_ifs
    · rfl
    · rfl
  · rw [if_neg htakes]
    refine dlFate_refused (k := k) hstate ?_ ?_ htakes
    · rw [hservice, hr]
      rfl
    · rw [hservice, hr]
      rfl

/-! ### The lengths -/

/-- The arg block has room for 250 octets. -/
theorem argBlockLen_eq_iff (w : WriteArgs) :
    w.argBlockLen = sizeofArgBlockOd + w.data.length ↔ w.data.length ≤ 250 := by
  have hlt := w.length_lt
  have hsize : sizeofArgBlockOd = 5 := rfl
  rw [WriteArgs.argBlockLen, narrow8]
  omega

/-- The length comes out of the arg block as it went in. -/
theorem writeLen_of_le (h : w.data.length ≤ 250) : (w.smiReq 0).writeLen = w.data.length := by
  have hlen : (w.smiReq 0).argBlockLen = sizeofArgBlockOd + w.data.length :=
    (argBlockLen_eq_iff w).mpr h
  have hnarrow : narrow8 (w.smiReq 0).argBlockLen = sizeofArgBlockOd + w.data.length := by
    rw [hlen]
    exact narrow8_of_lt (show 5 + w.data.length < 256 by omega)
  rw [SmiServiceReq.writeLen, hnarrow, if_pos (Nat.le_add_right _ _), Nat.add_sub_cancel_left]

/-- An accepted request is carried exactly if it fits. -/
theorem carries_iff {vl : IsduVl} (h : (dl.isduTransportReq vl).1 = some .none) :
    Carries vl.request dl vl (dl.isduTransportReq vl).2 ↔ vl.request.size ≤ isduMaxSize := by
  rw [← vl.encodedSize_eq]
  constructor
  · intro hc
    have hfits := hc.fits
    rw [Dl.isduTransportReq_totalIsduLen h, IsduVl.encodedSize, hc.totalIsduLen] at hfits
    exact hfits
  · intro hfit
    have htakes := ((dl.isduTransportReq_accepts_iff vl).mp h).1
    obtain ⟨hlen, hoctets, hfaults⟩ := Dl.isduTransportReq_of_takes htakes hfit
    have hlt : vl.encodedSize < 256 := Nat.lt_of_le_of_lt hfit (by decide)
    have hparse : parse (dl.isduTransportReq vl).2.isduOctets = some vl.request := by
      rw [hoctets]
      exact vl.parse_octets hlt
    have hfront := vl.length_front
    rw [IsduVl.encodedSize] at hlt
    exact ⟨hparse, hlen ▸ hfit, hfaults, narrow8_of_lt (by omega), narrow8_of_lt hlt⟩

/-! ### Frames -/

/-- The octets of an index. -/
private theorem shift_or (a b : Octet) :
    (a.toUInt16 <<< 8) ||| b.toUInt16 = .ofNat (a.toNat * 256 + b.toNat) := by
  have ha := a.toNat_lt
  have hb := b.toNat_lt
  refine UInt16.toNat_inj.mp ?_
  have hshift : (a.toUInt16 <<< 8).toNat = a.toNat <<< 8 := by
    rw [UInt16.toNat_shiftLeft, UInt8.toNat_toUInt16, Nat.shiftLeft_eq, Nat.shiftLeft_eq]
    exact Nat.mod_eq_of_lt (show a.toNat * 2 ^ 8 < 65536 by omega)
  rw [UInt16.toNat_or, hshift, UInt8.toNat_toUInt16, ← Nat.shiftLeft_add_eq_or_of_lt hb,
    Nat.shiftLeft_eq, UInt16.toNat_ofNat']
  exact (Nat.mod_eq_of_lt (by omega)).symm

/-- **The server passes the client's octets on.** -/
theorem writeArgs_of_frame {f : Frame} (hf : f.IsWrite) (s : Server) :
    (s.receive f).writeArgs.index = f.writeRequest.index ∧
      (s.receive f).writeArgs.subindex = f.writeRequest.subindex ∧
      (s.receive f).writeArgs.data = f.writeRequest.data := by
  have hlen := hf.length
  have hget : ∀ i < 6, (s.receive f).buffer.get i = octetOf f.octets i := fun i hi =>
    s.get_receive f (by omega)
  have hslice : (s.receive f).buffer.slice 0 f.octets.length = f.octets :=
    s.buffer.slice_zero_write f.length_le
  refine ⟨?_, hget 4 (by omega), ?_⟩
  · simp only [Server.writeArgs, Server.index, hget 2 (by omega), hget 3 (by omega)]
    exact shift_or _ _
  · have htail : (s.receive f).buffer.slice 6 (octetOf f.octets 5).toNat =
        ((s.receive f).buffer.slice 0 f.octets.length).drop 6 := by
      rw [Buffer.slice, Buffer.slice, List.drop_take, hlen, Nat.add_sub_cancel_left]
      rfl
    simp only [Server.writeArgs, hget 5 (by omega), htail, hslice]
    rfl

/-! ### The whole way -/

theorem delivers_iff_fate (hlen : w.data.length ≤ 250) (req : Request) :
    Delivers req w ode al k dl ↔ (w.fate ode al k dl).Delivered req dl :=
  ⟨fun h => h.fate, fun h => ⟨(argBlockLen_eq_iff w).mpr hlen, writeLen_of_le hlen, h⟩⟩

/-- A data link layer takes a request for an index from 2 on unless it is busy or has no
connection. -/
private theorem takesIsdu_iff {vl : IsduVl} (hindex : 2 ≤ vl.index) :
    ¬ dl.TakesIsdu vl ↔ dl.modeHandler.state = .idle0 ∨
      dl.modeHandler.state = .estcom1 ∨ dl.isduHandler.state ≠ .idle1 := by
  constructor
  · intro h
    by_contra hnot
    rw [not_or, not_or, not_not] at hnot
    exact h ⟨⟨hnot.1, hnot.2.1⟩, hindex, hnot.2.2⟩
  · rintro (h | h | h) htakes
    · exact htakes.mode.1 h
    · exact htakes.mode.2 h
    · exact h htakes.idle

/-- The fate of a write in an idle application layer. -/
private theorem delivered_alFate_iff (h : al.odState = .onReqIdle) :
    (alFate al k dl w.index w.subindex w.data).Delivered ⟨.write, w.index, w.subindex, w.data⟩ dl ↔
      (w.index = 0 ∨ 2 ≤ w.index ∧ (dl.modeHandler.state = .idle0 ∨
        dl.modeHandler.state = .estcom1 ∨ dl.isduHandler.state ≠ .idle1)) ∨
      2 ≤ w.index ∧ Request.size ⟨.write, w.index, w.subindex, w.data⟩ ≤ isduMaxSize := by
  by_cases h0 : w.index = 0
  · rw [h0, alFate_index_0 h]
    exact iff_of_true (by decide : SmiErrorType.appDev ≠ SmiErrorType.none)
      (Or.inl (Or.inl rfl))
  -- Index 0 is answered with an error, index 1 goes another way than an ISDU.
  by_cases h1 : w.index = 1
  · obtain ⟨value, hfate⟩ := alFate_index_1 k dl h w.subindex w.data
    rw [h1, hfate]
    have hlow : ¬ (2 : UInt16) ≤ 1 := by decide
    refine iff_of_false not_false ?_
    rintro ((hzero | ⟨hindex, -⟩) | ⟨hindex, -⟩)
    · exact absurd hzero (by decide)
    · exact hlow hindex
    · exact hlow hindex
  have hindex : 2 ≤ w.index := by
    have h0' : w.index.toNat ≠ 0 := fun h => h0 (UInt16.toNat_inj.mp h)
    have h1' : w.index.toNat ≠ 1 := fun h => h1 (UInt16.toNat_inj.mp h)
    have htwo : (2 : UInt16).toNat = 2 := rfl
    rw [UInt16.le_iff_toNat_le, htwo]
    omega
  obtain ⟨vl, hvl⟩ : ∃ vl, vl = writeValuelist w.index w.subindex w.data w.length_lt := ⟨_, rfl⟩
  have hreq : vl.request = ⟨.write, w.index, w.subindex, w.data⟩ := by
    rw [hvl]
    rfl
  have hvlindex : 2 ≤ vl.index := hvl ▸ hindex
  rw [alFate_isdu h hindex w.subindex w.length_lt, ← hvl, ← hreq]
  by_cases htakes : dl.TakesIsdu vl
  · have hbusy := mt (takesIsdu_iff hvlindex).mpr (not_not.mpr htakes)
    rw [if_pos htakes]
    -- A request that is too long either ends the process or is cut off.
    by_cases hkills : vl.Kills
    · have hlong : ¬ vl.request.size ≤ isduMaxSize := by
        rw [← vl.encodedSize_eq]
        exact fun hfit => IsduVl.not_kills_of_fits hfit hkills
      rw [if_pos hkills]
      refine iff_of_false not_false ?_
      rintro ((hzero | ⟨-, hrefused⟩) | ⟨-, hfit⟩)
      · exact absurd hzero h0
      · exact absurd hrefused hbusy
      · exact hlong hfit
    · have haccepts := (dl.isduTransportReq_accepts_iff vl).mpr ⟨htakes, hkills⟩
      rw [if_neg hkills]
      refine (carries_iff haccepts).trans ⟨fun hfit => Or.inr ⟨hindex, hfit⟩, ?_⟩
      rintro ((hzero | ⟨-, hrefused⟩) | ⟨-, hfit⟩)
      · exact absurd hzero h0
      · exact absurd hrefused hbusy
      · exact hfit
  · rw [if_neg htakes]
    exact iff_of_true (by decide : SmiErrorType.appDev ≠ SmiErrorType.none)
      (Or.inl (Or.inr ⟨hindex, (takesIsdu_iff hvlindex).mp htakes⟩))

/-- The fate of a write with a value of at most 250 octets. -/
theorem delivers_iff_of_le (hlen : w.data.length ≤ 250) :
    Delivers ⟨.write, w.index, w.subindex, w.data⟩ w ode al k dl ↔
      Deliverable ⟨.write, w.index, w.subindex, w.data⟩ ode al dl := by
  have hodLength : w.OdLength ↔ w.index = 24 ∧ w.data.length = 10 := by
    rw [WriteArgs.OdLength, (argBlockLen_eq_iff w).mpr hlen, Nat.add_left_cancel_iff]
  have hwrite : (w.smiReq 0).IsWrite := ⟨rfl, rfl⟩
  rw [delivers_iff_fate hlen, WriteArgs.fate]
  by_cases hod : w.OdLength
  · rw [if_pos hod]
    exact iff_of_true (by decide : SmiErrorType.valLenovrrun ≠ SmiErrorType.none)
      ⟨hlen, Or.inl (Or.inl (hodLength.mp hod))⟩
  rw [if_neg hod]
  by_cases hode : ode.state = .odActive
  swap
  · obtain ⟨e, he, hfate⟩ := odeFate_refused al k dl hode hwrite
    rw [hfate]
    exact iff_of_true he ⟨hlen, Or.inl (Or.inr (Or.inl hode))⟩
  have hdata : (w.smiReq 0).argBlock.data.take (w.smiReq 0).writeLen = w.data := by
    rw [writeLen_of_le hlen]
    exact List.take_length
  rw [odeFate_passed hode hwrite, hdata]
  have hnot : ¬ (w.index = 24 ∧ w.data.length = 10) := mt hodLength.mpr hod
  have hactive : ¬ ode.state ≠ .odActive := not_not.mpr hode
  rw [Deliverable, Refused]
  simp only [hlen, hnot, hactive, false_or, true_and]
  -- Only an idle handler takes the request; one that builds a service loses it.
  cases hal : al.odState with
  | onReqIdle =>
    refine (delivered_alFate_iff hal).trans ?_
    simp
  | buildDlService =>
    have hfate : alFate al k dl (w.smiReq 0).argBlock.index (w.smiReq 0).argBlock.subindex w.data =
        .lost := alFate_building hal _ _ _
    rw [hfate]
    exact iff_of_false not_false (by simp)
  | awaitDlParamCnf =>
    have hfate : alFate al k dl (w.smiReq 0).argBlock.index (w.smiReq 0).argBlock.subindex w.data =
        .refused SmiErrorType.serviceTempUnavailable := alFate_busy (Or.inl hal) _ _ _
    rw [hfate]
    exact iff_of_true (by decide : SmiErrorType.serviceTempUnavailable ≠ SmiErrorType.none)
      (by simp)
  | awaitDlIsduCnf =>
    have hfate : alFate al k dl (w.smiReq 0).argBlock.index (w.smiReq 0).argBlock.subindex w.data =
        .refused SmiErrorType.serviceTempUnavailable := alFate_busy (Or.inr hal) _ _ _
    rw [hfate]
    exact iff_of_true (by decide : SmiErrorType.serviceTempUnavailable ≠ SmiErrorType.none)
      (by simp)

/-- **When the client's octets arrive.** For every frame that the server accepts, whatever is left
in the server from earlier connections, and whatever state each layer is in when the request reaches
it: the octets are delivered exactly if they are deliverable. -/
theorem delivers_iff {f : Frame} (hf : f.IsWrite) (s : Server) (ode : Ode) (al : Al κ) (k : κ)
    (dl : Dl) :
    Delivers f.writeRequest (s.receive f).writeArgs ode al k dl ↔
      Deliverable f.writeRequest ode al dl := by
  obtain ⟨hindex, hsubindex, hdata⟩ := writeArgs_of_frame hf s
  have hreq : f.writeRequest = ⟨.write, (s.receive f).writeArgs.index,
      (s.receive f).writeArgs.subindex, (s.receive f).writeArgs.data⟩ := by
    rw [hindex, hsubindex, hdata]
    rfl
  rw [hreq]
  by_cases hlen : (s.receive f).writeArgs.data.length ≤ 250
  · exact delivers_iff_of_le hlen
  · refine iff_of_false (fun h => hlen ?_) fun h => hlen h.1
    exact (argBlockLen_eq_iff _).mp h.argBlockLen

/-! ### A request that does not fit -/

/-- The offset of the check octet of a write with at most 250 octets does not wrap around. -/
theorem kills_of_long {vl : IsduVl} (hlen : vl.data.length ≤ 250)
    (hlong : isduMaxSize < vl.encodedSize) : vl.Kills := by
  have hfront := vl.length_front
  have hover : vl.totalOverhead ≤ 6 := by
    rw [IsduVl.totalOverhead, IsduVl.overheadlen]
    split_ifs <;> decide
  have hmax : isduMaxSize = 241 := rfl
  rw [IsduVl.encodedSize, hmax] at hlong
  rw [IsduVl.kills_iff, IsduVl.dataoffset, hmax, narrow8_of_lt (by omega)]
  omega

/-- **A value that does not fit** passes every layer, and the process does not survive its
encoding. -/
theorem fate_of_long (hlen : w.data.length ≤ 250) (hod : ¬ w.OdLength)
    (hode : ode.state = .odActive) (hal : al.odState = .onReqIdle) (hindex : 2 ≤ w.index)
    (hmode : dl.modeHandler.state ≠ .idle0 ∧ dl.modeHandler.state ≠ .estcom1)
    (hidle : dl.isduHandler.state = .idle1)
    (hlong : isduMaxSize < Request.size ⟨.write, w.index, w.subindex, w.data⟩) :
    w.fate ode al k dl = .crash := by
  have hdata : (w.smiReq 0).argBlock.data.take (w.smiReq 0).writeLen = w.data := by
    rw [writeLen_of_le hlen]
    exact List.take_length
  obtain ⟨vl, hvl⟩ : ∃ vl, vl = writeValuelist w.index w.subindex w.data w.length_lt := ⟨_, rfl⟩
  have htakes : dl.TakesIsdu vl := ⟨hmode, hvl ▸ hindex, hidle⟩
  have hkills : vl.Kills := by
    refine kills_of_long (hvl ▸ hlen) ?_
    rw [vl.encodedSize_eq, hvl]
    exact hlong
  rw [WriteArgs.fate, if_neg hod, odeFate_passed hode ⟨rfl, rfl⟩, hdata]
  refine (alFate_isdu hal hindex w.subindex w.length_lt).trans ?_
  rw [← hvl, if_pos htakes, if_pos hkills]

theorem not_delivers_of_crash (req : Request) (h : w.fate ode al k dl = .crash) :
    ¬ Delivers req w ode al k dl := by
  intro hdelivers
  have hfate := hdelivers.fate
  rw [h] at hfate
  exact hfate

/-- The layers of a port in operation. -/
def readyOde : Ode := { state := .odActive }

/-- A write of a number of octets to index 24 of the first port, subindex 0. -/
def writeFrame (n : ℕ) (h : n < 256) : Frame where
  octets := [Cmd.write, 0, 0, 24, 0, UInt8.ofNat n] ++ List.replicate n 7
  length_le := by
    rw [List.length_append, List.length_replicate]
    exact Nat.add_le_add (Nat.le_refl 6) (Nat.le_of_lt h) |>.trans (by decide)

/-- 237 octets arrive: the ISDU has 241 octets. -/
theorem delivers_237 : Delivers (writeFrame 237 (by decide)).writeRequest
    ((({} : Server).receive (writeFrame 237 (by decide))).writeArgs) readyOde ({} : Al Unit) ()
      Dl.operatingHandler := by
  have hframe : (writeFrame 237 (by decide)).IsWrite :=
    ⟨by decide +kernel, by decide +kernel, by decide +kernel⟩
  exact (delivers_iff hframe {} readyOde {} () _).mpr (by decide +kernel)

/-- 238 octets pass every layer, and `DL_ISDUTransport_req` kills the process. -/
theorem not_delivers_238 : (writeFrame 238 (by decide)).IsWrite ∧
    ((({} : Server).receive (writeFrame 238 (by decide))).writeArgs).fate readyOde ({} : Al Unit) ()
      Dl.operatingHandler = .crash ∧
    ¬ Delivers (writeFrame 238 (by decide)).writeRequest
      ((({} : Server).receive (writeFrame 238 (by decide))).writeArgs) readyOde ({} : Al Unit) ()
        Dl.operatingHandler := by
  have hcrash : ((({} : Server).receive (writeFrame 238 (by decide))).writeArgs).fate readyOde
      ({} : Al Unit) () Dl.operatingHandler = .crash :=
    fate_of_long (by decide +kernel) (by decide +kernel) rfl rfl (by decide +kernel)
      ⟨MdhSt.noConfusion, MdhSt.noConfusion⟩ rfl (by decide +kernel)
  refine ⟨⟨by decide +kernel, by decide +kernel, by decide +kernel⟩, hcrash, ?_⟩
  exact not_delivers_of_crash _ hcrash

end IolHat
