import IolHat.DataLink.MessageFootprint
import IolHat.DataLink.OnRequestCalls

/-!
# What the thread can change

The functions of the thread, the mode handler and the services are made of the calls of the handlers
and of a few changes of their own. `ModeClosed` lists what the mode handler does. All that is done
around the message handler is `Quiet`: its state, its retry counter and its flags stay, and no
message is handed to the physical layer.

`ThreadClosed` lists what is left. A property that survives each item of it survives every input
(`ThreadClosed.linkStep`). `LinkClosed` is the longer list, for a property that depends on what
`Quiet` leaves open.
-/

namespace IolHat

/-- A message is handed to the physical layer. -/
def DlCall.IsMessage : DlCall → Prop
  | .plTransferReq .. | .plMessageDownloadReq .. | .plResend => True
  | _ => False

instance : (c : DlCall) → Decidable c.IsMessage
  | .plTransferReq .. | .plMessageDownloadReq .. | .plResend => isTrue trivial
  | .readCnf .. | .writeCnf _ | .writeDevicemodeCnf .. | .readParamCnf .. | .writeParamCnf _
  | .isduTransportCnf .. | .controlInd _ | .eventInd .. | .pdInputTransportInd .. | .modeInd _
  | .modeIndBaud _ | .plEnableCycleTimer | .plDisableCycleTimer => isFalse id

theorem DlCall.IsOnRequest.not_isMessage {rwcmd : MHRWCmd} {c : DlCall} (h : c.IsOnRequest rwcmd) :
    ¬ c.IsMessage := by
  cases c <;> first | exact id | exact h.elim

namespace Dl

/-! ### The mode handler -/

/-- A property that survives everything the mode handler does. -/
structure ModeClosed (P : Dl → Prop) : Prop where
  ohConf : ∀ {dl : Dl} (cmd : HandlerCmd), P dl → P (dl.ohConf cmd)
  ihConf : ∀ {dl : Dl} (cmd : HandlerCmd), P dl → P (dl.ihConf cmd)
  ehConf : ∀ {dl : Dl} (cmd : HandlerCmd), P dl → P (dl.ehConf cmd)
  chConf : ∀ {dl : Dl} (cmd : HandlerCmd), P dl → P (dl.chConf cmd)
  phConf : ∀ {dl : Dl} {cmd : PHCmd}, cmd = .inactive ∨ cmd = .single → P dl → P (dl.phConf cmd)
  mhConf : ∀ {dl : Dl} (cmd : MHCmd), P dl → P (dl.mhConf cmd)
  mode : ∀ {dl : Dl} (f : ModeHandler → ModeHandler), P dl → P (dl.modMode f)
  modeInd : ∀ {dl : Dl} (mode : MhMode), P dl → P (dl.emit (.modeInd mode))

namespace ModeClosed

variable {P : Dl → Prop} (hP : ModeClosed P) {dl : Dl}

include hP

theorem setOhIhEhConfActive (h : P dl) (cmd : HandlerCmd) : P (dl.setOhIhEhConfActive cmd) :=
  hP.ehConf _ (hP.ihConf _ (hP.ohConf _ h))

/-- The interleaved exchange is not configured: its M-sequence type passes the test before. -/
theorem modeHSmGotoOperate (h : P dl) : P dl.modeHSmGotoOperate := by
  unfold Dl.modeHSmGotoOperate
  dsimp only
  split_ifs with htest htype
  · exact hP.modeInd _ (hP.mode _ (hP.mhConf _ (hP.phConf (.inr rfl) h)))
  · rw [htype] at htest
    exact absurd (by decide) htest
  · exact hP.modeInd _ (hP.mode _ (hP.mhConf _ h))

theorem modeHSmGotoIdle (h : P dl) (mode : MhMode) : P (dl.modeHSmGotoIdle mode) :=
  hP.modeInd _ (hP.mode _ (hP.mhConf _ (hP.chConf _ (hP.setOhIhEhConfActive h _))))

theorem modeHSmGotoStartup (h : P dl) : P dl.modeHSmGotoStartup :=
  hP.modeInd _ (hP.mode _ (hP.mhConf _ (hP.setOhIhEhConfActive h _)))

theorem modeHSmStartup2 (h : P dl) : P dl.modeHSmStartup2 := by
  unfold Dl.modeHSmStartup2
  split_ifs
  · exact hP.modeInd _ (hP.mode _ (hP.mhConf _ (hP.setOhIhEhConfActive h _)))
  · exact hP.modeHSmGotoOperate (hP.setOhIhEhConfActive h _)
  · exact hP.modeHSmGotoIdle h _
  · exact hP.modeHSmGotoIdle h _
  · exact h

theorem modeHSmPreoperate3 (h : P dl) : P dl.modeHSmPreoperate3 := by
  unfold Dl.modeHSmPreoperate3
  split_ifs
  · exact hP.modeHSmGotoStartup (hP.chConf _ h)
  · exact hP.mhConf _ h
  · exact hP.modeHSmGotoIdle h _
  · exact hP.modeHSmGotoOperate h
  · exact h

theorem modeHSmOperate4 (h : P dl) : P dl.modeHSmOperate4 := by
  unfold Dl.modeHSmOperate4
  split_ifs
  · exact hP.modeHSmGotoStartup (hP.phConf (.inl rfl) h)
  · exact hP.modeHSmGotoIdle (hP.phConf (.inl rfl) h) _
  · exact hP.modeHSmGotoIdle (hP.phConf (.inl rfl) h) _
  · exact h

/-- **The mode handler.** -/
theorem modeHSm (h : P dl) : P dl.modeHSm := by
  unfold Dl.modeHSm
  split
  · unfold Dl.modeHSmIdle0
    split_ifs
    · exact hP.mode _ h
    · exact h
  · exact h
  · exact hP.modeHSmStartup2 h
  · exact hP.modeHSmPreoperate3 h
  · exact hP.modeHSmOperate4 h

end ModeClosed

/-! ### What does not concern the message handler -/

/-- The flags by which the thread tells the message handler of a reply or of an error. -/
def flags (dl : Dl) : Bool × Bool × Bool × Bool :=
  (dl.vars.dataready, dl.vars.rxtimeout, dl.vars.rxerror, dl.vars.txerror)

/-- The message handler has not been called: it is where it was, with as many repetitions, no reply
and no error has been reported, and no message has been handed over. -/
structure Quiet (dl₀ dl : Dl) : Prop where
  state : dl.messageHandler.state = dl₀.messageHandler.state
  retry : dl.messageHandler.retry = dl₀.messageHandler.retry
  flags : dl.flags = dl₀.flags
  calls : ∃ cs, dl.out = dl₀.out ++ cs ∧ ∀ c ∈ cs, ¬ c.IsMessage

variable {dl₀ dl : Dl}

theorem OnRequestCalls.quiet (h : dl₀.OnRequestCalls dl) : dl₀.Quiet dl where
  state := congrArg Prod.fst h.front
  retry := congrArg (·.2.2.1) h.front
  flags := by
    rw [Dl.flags, h.vars]
    rfl
  calls := by
    obtain ⟨cs, hout, hcs⟩ := h.calls
    exact ⟨cs, hout, fun c hc => (hcs c hc).not_isMessage⟩

namespace Quiet

theorem refl (dl : Dl) : dl.Quiet dl := (OnRequestCalls.refl dl).quiet

theorem trans {dl₁ : Dl} (h : dl₀.Quiet dl) (h' : dl.Quiet dl₁) : dl₀.Quiet dl₁ := by
  obtain ⟨cs, hout, hcs⟩ := h.calls
  obtain ⟨cs', hout', hcs'⟩ := h'.calls
  refine ⟨h'.state.trans h.state, h'.retry.trans h.retry, h'.flags.trans h.flags,
    cs ++ cs', ?_, fun c hc => ?_⟩
  · rw [hout', hout, List.append_assoc]
  · exact (List.mem_append.mp hc).elim (hcs c) (hcs' c)

/-- A change of other fields. -/
theorem beside {dl₁ : Dl} (h : dl₀.Quiet dl) (hstate : dl₁.messageHandler = dl.messageHandler)
    (hvars : dl₁.vars = dl.vars) (hout : dl₁.out = dl.out) : dl₀.Quiet dl₁ := by
  refine ⟨?_, ?_, ?_, ?_⟩
  · rw [hstate]
    exact h.state
  · rw [hstate]
    exact h.retry
  · rw [Dl.flags, hvars]
    exact h.flags
  · rw [hout]
    exact h.calls

theorem message (h : dl₀.Quiet dl) (f : MessageHandler → MessageHandler)
    (hf : ∀ h, (f h).state = h.state ∧ (f h).retry = h.retry) : dl₀.Quiet (dl.modMessage f) :=
  ⟨(hf _).1.trans h.state, (hf _).2.trans h.retry, h.flags, h.calls⟩

theorem vars (h : dl₀.Quiet dl) (f : DlVars → DlVars)
    (hf : (dl.modVars f).flags = dl.flags) : dl₀.Quiet (dl.modVars f) :=
  ⟨h.state, h.retry, hf.trans h.flags, h.calls⟩

theorem rwcmd (h : dl₀.Quiet dl) (c : MHRWCmd) :
    dl₀.Quiet (dl.modMessage ({ · with rwcmd := c })) := h.message _ fun _ => ⟨rfl, rfl⟩

theorem isdu (h : dl₀.Quiet dl) (f : IsduHandler → IsduHandler) : dl₀.Quiet (dl.modIsdu f) :=
  h.beside rfl rfl rfl

theorem od (h : dl₀.Quiet dl) (f : OdHandler → OdHandler) : dl₀.Quiet (dl.modOd f) :=
  h.beside rfl rfl rfl

theorem objects (h : dl₀.Quiet dl) (f : DlObjects → DlObjects) : dl₀.Quiet (dl.modObjects f) :=
  h.beside rfl rfl rfl

theorem emit (h : dl₀.Quiet dl) {c : DlCall} (hc : ¬ c.IsMessage) : dl₀.Quiet (dl.emit c) := by
  obtain ⟨cs, hout, hcs⟩ := h.calls
  refine ⟨h.state, h.retry, h.flags, cs ++ [c], ?_, fun d hd => ?_⟩
  · rw [emit_out, hout, List.append_assoc]
  · obtain hd | hd := List.mem_append.mp hd
    · exact hcs d hd
    · rwa [List.mem_singleton.mp hd]

theorem odReq (h : dl₀.Quiet dl) (rw : RwDirection) (ch : ComChannel) (a len : ℕ) (p : OctetPtr) :
    dl₀.Quiet (dl.odReq rw ch a len p).2 := h.trans ((OnRequestCalls.refl dl).odReq ..).quiet

theorem odHSm (h : dl₀.Quiet dl) : dl₀.Quiet dl.odHSm :=
  h.trans (OnRequestCalls.refl dl).odHSm.quiet

theorem setMseqChange (h : dl₀.Quiet dl) : dl₀.Quiet dl.setMseqChange := by
  unfold Dl.setMseqChange
  dsimp only
  split_ifs
  all_goals exact ⟨h.state, h.retry, h.flags, h.calls⟩

theorem pdHSm (h : dl₀.Quiet dl) : dl₀.Quiet dl.pdHSm :=
  PdClosed.pdHSm (P := dl₀.Quiet)
    ⟨fun _ h => h.beside rfl rfl rfl, fun h => h.beside rfl rfl rfl, fun _ _ h => h.emit id,
      fun _ _ h => h.beside rfl rfl rfl, fun _ _ h => h.beside rfl rfl rfl,
      fun _ _ _ _ _ h => h.odReq ..⟩ h

end Quiet

/-! ### The services -/

namespace Quiet

theorem refuseAccess (h : dl₀.Quiet dl) (write : Bool) (errinfo : Status) :
    dl₀.Quiet (dl.refuseAccess write errinfo) := by
  unfold Dl.refuseAccess
  split_ifs
  · exact h.emit id
  · exact h.emit id

theorem readWriteReq (h : dl₀.Quiet dl) (address : ℕ) (value : Octet) (write : Bool) :
    dl₀.Quiet (dl.readWriteReq address value write).2 := by
  unfold Dl.readWriteReq
  dsimp only
  split_ifs <;> dsimp only
  · exact h.refuseAccess _ _
  · exact h.refuseAccess _ _
  · exact (h.vars _ (by rfl)).emit id
  · exact ⟨h.state, h.retry, h.flags, h.calls⟩
  · exact ⟨h.state, h.retry, h.flags, h.calls⟩

theorem setModeReq (h : dl₀.Quiet dl) (mode : DlMode) (valuelist : ModeVl) :
    dl₀.Quiet (dl.setModeReq mode valuelist) := by
  unfold Dl.setModeReq
  dsimp only
  split_ifs
  · exact ⟨h.state, h.retry, h.flags, h.calls⟩
  · exact ⟨h.state, h.retry, h.flags, h.calls⟩

theorem cmdHSm (h : dl₀.Quiet dl) (f : CmdHandler → CmdHandler) :
    dl₀.Quiet (dl.modCmd f).cmdHSm := h.trans (((OnRequestCalls.refl dl).cmd f).cmdHSm).quiet

theorem writeDevicemodeReq (h : dl₀.Quiet dl) (devicemode : DlMode) :
    dl₀.Quiet (dl.writeDevicemodeReq devicemode).2 := by
  unfold Dl.writeDevicemodeReq
  dsimp only
  split_ifs <;> dsimp only
  · exact h.emit id
  · exact (h.cmdHSm _).emit id
  · exact (h.cmdHSm _).beside rfl rfl rfl
  · exact h.cmdHSm _

theorem controlReq (h : dl₀.Quiet dl) (controlcode : ControlCode) :
    dl₀.Quiet (dl.controlReq controlcode).2 := by
  unfold Dl.controlReq
  split_ifs
  · exact h
  · exact h.cmdHSm _

theorem pdOutputUpdateReq (h : dl₀.Quiet dl) (outputdata : List Octet) :
    dl₀.Quiet (dl.pdOutputUpdateReq outputdata).2 := by
  unfold Dl.pdOutputUpdateReq
  dsimp only
  split_ifs
  · exact h
  · exact h.beside rfl rfl rfl
  · exact h.beside rfl rfl rfl

theorem encodeIsdu (h : dl₀.Quiet dl) (vl : IsduVl) : dl₀.Quiet (dl.encodeIsdu vl) := by
  obtain ⟨buf, fs, henc⟩ := dl.encodeIsdu_frame vl
  rw [henc]
  exact ⟨h.state, h.retry, h.flags, h.calls⟩

theorem isduTransportReq (h : dl₀.Quiet dl) (vl : IsduVl) :
    dl₀.Quiet (dl.isduTransportReq vl).2 := by
  unfold Dl.isduTransportReq
  split_ifs
  · exact h.emit id
  · exact h.emit id
  · exact h.emit id
  · exact (h.isdu _).encodeIsdu vl
  · dsimp only
    unfold Dl.readTotalSeg
    split_ifs
    · exact (((((h.isdu _).encodeIsdu vl).isdu _).isdu _).isdu _).rwcmd _ |>.objects _
    · exact (((((h.isdu _).encodeIsdu vl).isdu _).isdu _).isdu _).rwcmd _

theorem refuseParam (h : dl₀.Quiet dl) (write : Bool) (errinfo : Status) :
    dl₀.Quiet (dl.refuseParam write errinfo) := by
  unfold Dl.refuseParam
  split_ifs
  · exact h.emit id
  · exact h.emit id

theorem readWriteParamReq (h : dl₀.Quiet dl) (address : UInt16) (value : Octet) (write : Bool) :
    dl₀.Quiet (dl.readWriteParamReq address value write).2 := by
  unfold Dl.readWriteParamReq
  dsimp only
  cases write with
  | true =>
    simp only [if_true]
    split_ifs <;> dsimp only
    · exact (h.rwcmd _).refuseParam _ _
    · exact (h.rwcmd _).refuseParam _ _
    · exact (((h.rwcmd _).od _).od _).objects _
    · exact ((h.rwcmd _).od _).od _
  | false =>
    simp only [Bool.false_eq_true, if_false]
    split_ifs <;> dsimp only
    · exact (h.rwcmd _).refuseParam _ _
    · exact (h.rwcmd _).refuseParam _ _
    · exact ((h.rwcmd _).od _).objects _
    · exact (h.rwcmd _).od _

end Quiet

/-! ### The thread -/

/-- The octets that are taken of a reply; there are none when the input is not a reply. -/
def replyOf (dl : Dl) : LinkInput → List Octet
  | .dl (.rxrdy octets) =>
    octets.take (narrow8 (dl.messageHandler.odLen + dl.messageHandler.pdRxlen + 1))
  | _ => []

/-- The octets of a reply are stored: `rxrdy` before it calls the message handler. -/
def takeReply (dl : Dl) (octets : List Octet) : Dl :=
  ((dl.access .rxbuffer (octets.length ≤ rxtxBufferSize)).writeRx octets).modVars
    ({ · with dataready := true })

theorem rxrdy_eq (dl : Dl) (octets : List Octet) : dl.rxrdy octets =
    if (dl.replyOf (.dl (.rxrdy octets))).isEmpty then dl
    else (dl.takeReply (dl.replyOf (.dl (.rxrdy octets)))).messageHSm.modVars
      ({ · with dataready := false }) := rfl

/-- The error registers of the physical layer are read: `iolink_dl_handle_error` before it calls the
message handler. -/
def readErrors (dl : Dl) : Dl :=
  let dl := dl.getError
  let dl := if dl.vars.devdly &&& 0x80 ≠ 0 then dl.modVars ({ · with rxtimeout := true }) else dl
  let dl := if dl.vars.cqerr &&& 0x0B ≠ 0 then dl.modVars ({ · with rxerror := true }) else dl
  if dl.vars.cqerr &&& 0xF0 ≠ 0 then
    if dl.vars.cqerr &&& 0xB0 ≠ 0 then dl.modVars ({ · with txerror := true })
    else dl.modVars fun v => { v with tcyclErrCnt := v.tcyclErrCnt + 1 }
  else dl

theorem handleError_eq (dl : Dl) : dl.handleError =
    if dl.readErrors.errorReported then
      dl.readErrors.messageHSm.modVars
        ({ · with rxtimeout := false, rxerror := false, txerror := false })
    else dl.readErrors := rfl

/-- The registers show an error of reception or of transmission. -/
def Faulty (dl : Dl) : Prop :=
  dl.pl.devdly &&& 0x80 ≠ 0 ∨ dl.pl.cqerr &&& 0x0B ≠ 0 ∨ dl.pl.cqerr &&& 0xB0 ≠ 0

instance (dl : Dl) : Decidable dl.Faulty := by unfold Faulty; infer_instance

/-- Only the error registers and the error flags change; afterwards a flag is set exactly when one
was set or the registers show an error. -/
theorem readErrors_frame (dl : Dl) : ∃ v, dl.readErrors = dl.modVars (fun _ => v) ∧
    v.dataready = dl.vars.dataready ∧ v.timerType = dl.vars.timerType ∧
    v.timerElapsed = dl.vars.timerElapsed ∧
    ((v.rxtimeout || v.rxerror || v.txerror) = true ↔ dl.errorReported = true ∨ dl.Faulty) := by
  have hmask : dl.pl.cqerr &&& 0xF0 = 0 → dl.pl.cqerr &&& 0xB0 = 0 := by
    intro h
    calc dl.pl.cqerr &&& 0xB0 = dl.pl.cqerr &&& (0xF0 &&& 0xB0) := rfl
      _ = (dl.pl.cqerr &&& 0xF0) &&& 0xB0 := (UInt8.and_assoc ..).symm
      _ = 0 := by rw [h]; rfl
  unfold readErrors getError errorReported Faulty
  dsimp only [modVars]
  split_ifs
  all_goals
    refine ⟨_, rfl, rfl, rfl, rfl, ?_⟩
    simp_all

/-- An error, for a property that does not depend on the flags. -/
theorem handleError_of_vars {P : Dl → Prop}
    (vars : ∀ {dl : Dl} (f : DlVars → DlVars), P dl → P (dl.modVars f))
    (messageHSm : ∀ {dl : Dl}, P dl → P dl.messageHSm) {dl : Dl} (h : P dl) : P dl.handleError := by
  obtain ⟨v, hv, -⟩ := dl.readErrors_frame
  rw [handleError_eq, hv]
  split_ifs
  · exact vars _ (messageHSm (vars _ h))
  · exact vars _ h

/-- A property that survives everything the thread and the services are made of. A reply and a
change of the mode are left out. -/
structure LinkClosed (P : Dl → Prop) : Prop extends ModeClosed P where
  messageHSm : ∀ {dl : Dl}, P dl → P dl.messageHSm
  handleError : ∀ {dl : Dl}, P dl → P dl.handleError
  vars : ∀ {dl : Dl} (f : DlVars → DlVars),
    (dl.modVars f).flags = dl.flags → P dl → P (dl.modVars f)
  objects : ∀ {dl : Dl} (f : DlObjects → DlObjects), P dl → P (dl.modObjects f)
  surroundings : ∀ {dl : Dl} (pl : PlAnswers), P dl → P { dl with pl := pl }
  modeIndBaud : ∀ {dl : Dl} (mode : MhMode), P dl → P (dl.emit (.modeIndBaud mode))
  inactive0 : ∀ {dl : Dl}, P dl → P (dl.toMessage .inactive0)
  awReply1 : ∀ {dl : Dl}, P dl → P (dl.toMessage .awReply1)
  reset : ∀ {dl : Dl}, P dl → P dl.reset
  readWriteReq : ∀ {dl : Dl} (address : ℕ) (value : Octet) (write : Bool),
    P dl → P (dl.readWriteReq address value write).2
  writeDevicemodeReq : ∀ {dl : Dl} (devicemode : DlMode),
    P dl → P (dl.writeDevicemodeReq devicemode).2
  controlReq : ∀ {dl : Dl} (code : ControlCode), P dl → P (dl.controlReq code).2
  pdOutputUpdateReq : ∀ {dl : Dl} (data : List Octet), P dl → P (dl.pdOutputUpdateReq data).2
  eventConf : ∀ {dl : Dl}, P dl → P (dl.modEvent ({ · with eventConfirmation := true }))
  isduTransportReq : ∀ {dl : Dl} (vl : IsduVl), P dl → P (dl.isduTransportReq vl).2
  readWriteParamReq : ∀ {dl : Dl} (address : UInt16) (value : Octet) (write : Bool),
    P dl → P (dl.readWriteParamReq address value write).2

namespace LinkClosed

variable {P : Dl → Prop} (hP : LinkClosed P)

include hP

theorem getError (h : P dl) : P dl.getError := by
  unfold Dl.getError
  exact hP.vars _ (by rfl) h

theorem wurqEstablished (h : P dl) : P dl.wurqEstablished := by
  have hup : P ((((dl.modVars ({ · with cycbyte := dl.pl.cycletime })).modMode
      ({ · with state := .startup2 })).toMessage .awReply1).messageHSm.chConf .active) :=
    hP.chConf _ (hP.messageHSm (hP.awReply1 (hP.mode _ (hP.vars _ (by rfl) h))))
  unfold Dl.wurqEstablished
  dsimp only
  refine hP.objects _ (hP.getError ?_)
  split
  · exact hP.modeIndBaud _ (hP.modeInd _ hup)
  · exact hP.chConf _ (hP.inactive0 (hP.mode _ (hP.modeIndBaud _ (hP.modeInd _ hup))))

theorem wurqRecv (h : P dl) : P dl.wurqRecv := by
  unfold Dl.wurqRecv
  dsimp only
  split_ifs
  · exact hP.modeInd _ (hP.mode _ (hP.vars _ (by rfl) h))
  · exact hP.wurqEstablished (hP.vars _ (by rfl) h)

theorem handleTimerTimeout (h : P dl) : P dl.handleTimerTimeout := by
  unfold Dl.handleTimerTimeout
  dsimp only
  split_ifs
  · exact hP.vars _ (by rfl) (hP.vars _ (by rfl) (hP.messageHSm (hP.vars _ (by rfl) h)))
  · exact hP.vars _ (by rfl) h

/-- **Every input**, given what a reply and a change of the mode do. -/
theorem linkStep (h : P dl) {i : LinkInput}
    (hreply : ∀ octets, i = .dl (.rxrdy octets) → P (dl.rxrdy octets))
    (hmode : ∀ mode vl, i = .dl (.setMode mode vl) → P (dl.setModeReq mode vl)) :
    P (dl.linkStep i) := by
  cases i with
  | isduTransport vl => exact hP.isduTransportReq vl h
  | readParam address => exact hP.readWriteParamReq address 0 false h
  | writeParam address value => exact hP.readWriteParamReq address value true h
  | dl i =>
    cases i with
    | surroundings pl => exact hP.surroundings pl h
    | rxrdy octets => exact hreply octets rfl
    | rxerr => exact hP.handleError h
    | txerr => exact hP.handleError h
    | wurq => exact hP.wurqRecv h
    | mdh =>
      simp only [Dl.linkStep, Dl.step]
      split_ifs
      · exact hP.modeHSm (hP.objects _ h)
      · exact h
    | mh =>
      simp only [Dl.linkStep, Dl.step]
      split_ifs
      · exact hP.messageHSm (hP.objects _ h)
      · exact h
    | timeout => exact hP.handleTimerTimeout (hP.objects _ h)
    | setMode mode valuelist => exact hmode mode valuelist rfl
    | read address => exact hP.readWriteReq address 0 false h
    | write address value => exact hP.readWriteReq address value true h
    | writeDevicemode devicemode => exact hP.writeDevicemodeReq devicemode h
    | control controlcode => exact hP.controlReq controlcode h
    | pdOutputUpdate outputdata => exact hP.pdOutputUpdateReq outputdata h
    | eventConf => exact hP.eventConf h
    | reset => exact hP.reset h

end LinkClosed

/-- A property that survives everything the thread and the services do. -/
structure ThreadClosed (P : Dl → Prop) : Prop where
  quiet : ∀ {dl dl' : Dl}, dl.Quiet dl' → P dl → P dl'
  messageHSm : ∀ {dl : Dl}, P dl → P dl.messageHSm
  rxrdy : ∀ {dl : Dl} (octets : List Octet), P dl → P (dl.rxrdy octets)
  handleError : ∀ {dl : Dl}, P dl → P dl.handleError
  inactive0 : ∀ {dl : Dl}, P dl → P (dl.toMessage .inactive0)
  awReply1 : ∀ {dl : Dl}, P dl → P (dl.toMessage .awReply1)
  reset : ∀ {dl : Dl}, P dl → P dl.reset

namespace ThreadClosed

variable {P : Dl → Prop}

/-- A property that does not depend on the flags. -/
theorem of_vars (quiet : ∀ {dl dl' : Dl}, dl.Quiet dl' → P dl → P dl')
    (vars : ∀ {dl : Dl} (f : DlVars → DlVars), P dl → P (dl.modVars f))
    (messageHSm : ∀ {dl : Dl}, P dl → P dl.messageHSm)
    (inactive0 : ∀ {dl : Dl}, P dl → P (dl.toMessage .inactive0))
    (awReply1 : ∀ {dl : Dl}, P dl → P (dl.toMessage .awReply1))
    (reset : ∀ {dl : Dl}, P dl → P dl.reset) : ThreadClosed P where
  quiet := quiet
  messageHSm := messageHSm
  rxrdy {dl} octets h := by
    rw [rxrdy_eq]
    split_ifs
    · exact h
    · exact vars _ (messageHSm (vars _ (quiet ((Quiet.refl dl).beside rfl rfl rfl) h)))
  handleError h := handleError_of_vars (P := P) vars messageHSm h
  inactive0 := inactive0
  awReply1 := awReply1
  reset := reset

variable (hP : ThreadClosed P)

include hP

theorem linkClosed : LinkClosed P where
  ohConf _ h := hP.quiet ((OnRequestCalls.refl _).od _).odHSm.quiet h
  ihConf _ h := hP.quiet ((OnRequestCalls.refl _).isdu _).isduHSm.quiet h
  ehConf _ h := hP.quiet (((OnRequestCalls.refl _).event fun _ => by rfl).evHSm).quiet h
  chConf _ h := hP.quiet ((Quiet.refl _).cmdHSm _) h
  phConf {dl cmd} _ h := by
    have hconf : dl.Quiet ((dl.modPd ({ · with phcmd := cmd })).modMessage
        ({ · with interleave := if cmd = .interleave then .pd else .none })) :=
      ⟨rfl, rfl, rfl, (Quiet.refl dl).calls⟩
    exact hP.quiet hconf.pdHSm h
  mhConf _ h := hP.messageHSm (hP.quiet ((Quiet.refl _).message _ fun _ => ⟨rfl, rfl⟩) h)
  mode {dl} _ h := hP.quiet ((Quiet.refl dl).beside rfl rfl rfl) h
  modeInd _ h := hP.quiet ((Quiet.refl _).emit id) h
  messageHSm h := hP.messageHSm h
  handleError h := hP.handleError h
  vars f hf h := hP.quiet ((Quiet.refl _).vars f hf) h
  objects f h := hP.quiet ((Quiet.refl _).objects f) h
  surroundings {dl} _ h := hP.quiet ((Quiet.refl dl).beside rfl rfl rfl) h
  modeIndBaud _ h := hP.quiet ((Quiet.refl _).emit id) h
  inactive0 h := hP.inactive0 h
  awReply1 h := hP.awReply1 h
  reset h := hP.reset h
  readWriteReq address value write h := hP.quiet ((Quiet.refl _).readWriteReq address value write) h
  writeDevicemodeReq devicemode h := hP.quiet ((Quiet.refl _).writeDevicemodeReq devicemode) h
  controlReq code h := hP.quiet ((Quiet.refl _).controlReq code) h
  pdOutputUpdateReq data h := hP.quiet ((Quiet.refl _).pdOutputUpdateReq data) h
  eventConf {dl} h := hP.quiet ((Quiet.refl dl).beside rfl rfl rfl) h
  isduTransportReq vl h := hP.quiet ((Quiet.refl _).isduTransportReq vl) h
  readWriteParamReq address value write h :=
    hP.quiet ((Quiet.refl _).readWriteParamReq address value write) h

/-- **Every input.** -/
theorem linkStep (h : P dl) (i : LinkInput) : P (dl.linkStep i) :=
  hP.linkClosed.linkStep h (fun octets _ => hP.rxrdy octets h)
    fun mode vl _ => hP.quiet ((Quiet.refl _).setModeReq mode vl) h

end ThreadClosed

end Dl

end IolHat
