import IolHat.DataLink.Footprint

/-!
# What the message handler can change

The states of the message handler call the PD handler and the OD handler, make calls to the layers
above and below, and change a few fields themselves. `PdClosed` lists what the PD handler does and
`MessageClosed` what the message handler does; a property that survives each item of a list survives
a call of the handler in every state (`PdClosed.pdHSm`, `MessageClosed.messageHSm`).

Two things the message handler does not do are part of its list: it sets no flag of a reply or of an
error (`NoNewFlag`), and process data is handed over by the PD handler only.
-/

namespace IolHat

namespace Dl

/-! ### The PD handler -/

/-- A property that survives everything the PD handler does. -/
structure PdClosed (P : Dl → Prop) : Prop where
  pd : ∀ {dl : Dl} (f : PdHandler → PdHandler), P dl → P (dl.modPd f)
  odSizes : ∀ {dl : Dl}, P dl → P dl.interleaveResetOdSizes
  input : ∀ {dl : Dl} (p : PdPtr) (data : List Octet),
    P dl → P (dl.emit (.pdInputTransportInd p data))
  access : ∀ {dl : Dl} (a : Fault) (inside : Bool), P dl → P (dl.access a inside)
  writeTx : ∀ {dl : Dl} (off : ℕ) (octets : List Octet), P dl → P (dl.writeTx off octets)
  odReq : ∀ {dl : Dl} (rw : RwDirection) (ch : ComChannel) (a len : ℕ) (p : OctetPtr),
    P dl → P (dl.odReq rw ch a len p).2

namespace PdClosed

variable {P : Dl → Prop} (hP : PdClosed P) {dl : Dl}

include hP

theorem pdReq (h : P dl) (pdinlength : ℕ) (pdout : Option OctetPtr) (addr len : ℕ) :
    P (dl.pdReq pdinlength pdout addr len).2 := by
  unfold Dl.pdReq
  split_ifs
  · exact h
  · exact h
  · cases pdout with
    | none => exact h
    | some p => exact hP.writeTx _ _ (hP.access _ _ (hP.access _ _ h))

theorem pdHSmInactive0 (h : P dl) : P dl.pdHSmInactive0 := by
  unfold Dl.pdHSmInactive0
  split
  · exact hP.pd _ h
  · exact hP.pd _ h
  · split_ifs
    · exact hP.pdReq (hP.pd _ h) _ _ _ _
    · exact h

theorem pdHSmPdSingle1 (h : P dl) : P dl.pdHSmPdSingle1 := by
  unfold Dl.pdHSmPdSingle1
  split
  · exact hP.pdReq (hP.pd _ h) _ _ _ _
  · exact hP.input _ _ (hP.access _ _ (hP.pd _ h))
  · split_ifs
    · exact hP.pd _ h
    · exact h

theorem pdInInterleaveReceived (h : P dl) : P dl.pdInInterleaveReceived := by
  unfold Dl.pdInInterleaveReceived
  dsimp only
  split_ifs
  · exact hP.pd _ (hP.input _ _ (hP.pd _ (hP.pd _ (hP.access _ _ h))))
  · exact hP.input _ _ (hP.pd _ (hP.pd _ (hP.access _ _ h)))
  · exact hP.pd _ (hP.access _ _ h)

theorem pdHSmPdInInterleave2 (h : P dl) : P dl.pdHSmPdInInterleave2 := by
  unfold Dl.pdHSmPdInInterleave2
  split_ifs
  · exact hP.pd _ h
  · split
    · exact hP.odSizes (hP.odReq _ _ _ _ _ (hP.pd _ h))
    · exact hP.pdInInterleaveReceived h
    · exact h

theorem pdHSmPdOutInterleave3 (h : P dl) : P dl.pdHSmPdOutInterleave3 := by
  unfold Dl.pdHSmPdOutInterleave3
  split_ifs
  · exact hP.pd _ h
  · split
    · exact hP.pd _ (hP.odSizes (hP.odReq _ _ _ _ _ (hP.pdReq (hP.pd _ h) _ _ _ _)))
    · dsimp only
      split_ifs
      · exact hP.pd _ (hP.pd _ (hP.pd _ h))
      · exact hP.pd _ (hP.pd _ h)
      · exact hP.pd _ h
    · exact h

/-- **The PD handler.** -/
theorem pdHSm (h : P dl) : P dl.pdHSm := by
  unfold Dl.pdHSm
  split
  · exact hP.pdHSmInactive0 h
  · exact hP.pdHSmPdSingle1 h
  · exact hP.pdHSmPdInInterleave2 h
  · exact hP.pdHSmPdOutInterleave3 h

end PdClosed

/-! ### The flags -/

/-- Neither a reply nor an error has been reported, unless one had been before. -/
structure NoNewFlag (dl₀ dl : Dl) : Prop where
  dataready : dl.vars.dataready = true → dl₀.vars.dataready = true
  error : dl.errorReported = true → dl₀.errorReported = true

namespace NoNewFlag

variable {dl₀ dl dl' : Dl}

theorem refl (dl : Dl) : dl.NoNewFlag dl := ⟨id, id⟩

theorem trans (h : dl₀.NoNewFlag dl) (h' : dl.NoNewFlag dl') : dl₀.NoNewFlag dl' :=
  ⟨h.dataready ∘ h'.dataready, h.error ∘ h'.error⟩

theorem of_vars (h : dl₀.NoNewFlag dl) (hvars : dl'.vars = dl.vars) : dl₀.NoNewFlag dl' := by
  refine ⟨?_, ?_⟩
  · rw [hvars]
    exact h.dataready
  · rw [errorReported, hvars]
    exact h.error

end NoNewFlag

/-! ### The message handler -/

/-- A property that survives everything the message handler does. -/
structure MessageClosed (P : Dl → Prop) : Prop where
  odHSm : ∀ {dl : Dl}, P dl → P dl.odHSm
  pdHSm : ∀ {dl : Dl}, P dl → P dl.pdHSm
  setMseqChange : ∀ {dl : Dl}, P dl → P dl.setMseqChange
  writeMasterCommand : ∀ {dl : Dl} (errorinfo : Status),
    P dl → P (dl.writeMasterCommand errorinfo)
  message : ∀ {dl : Dl} (f : MessageHandler → MessageHandler),
    (∀ h, ∃ state rwcmd retry cks,
      f h = { h with state := state, rwcmd := rwcmd, retry := retry, cks := cks }) →
    P dl → P (dl.modMessage f)
  interleave : ∀ {dl : Dl} (part : Interleave), dl.messageHandler.interleave ≠ .none →
    P dl → P (dl.modMessage ({ · with interleave := part }))
  odTrigger : ∀ {dl : Dl} (trigger : Trigger),
    P dl → P (dl.modOd ({ · with trigger := trigger }))
  pdTrigger : ∀ {dl : Dl} (trigger : Trigger),
    P dl → P (dl.modPd ({ · with trigger := trigger }))
  eventFlag : ∀ {dl : Dl} (eventflag : Bool), P dl → P (dl.eventFlagInd eventflag)
  mhinfo : ∀ {dl : Dl} (mhinfo : MhInfo), P dl → P (dl.modMode ({ · with mhinfo := mhinfo }))
  vars : ∀ {dl : Dl} (f : DlVars → DlVars),
    dl.NoNewFlag (dl.modVars f) → P dl → P (dl.modVars f)
  objects : ∀ {dl : Dl} (f : DlObjects → DlObjects), P dl → P (dl.modObjects f)
  emit : ∀ {dl : Dl} {c : DlCall}, ¬ c.IsInput → P dl → P (dl.emit c)
  access : ∀ {dl : Dl} (a : Fault) (inside : Bool), P dl → P (dl.access a inside)

namespace MessageClosed

variable {P : Dl → Prop} (hP : MessageClosed P) {dl : Dl}

include hP

theorem toMessage (h : P dl) (state : MhSt) : P (dl.toMessage state) :=
  hP.message _ (fun _ => ⟨_, _, _, _, rfl⟩) h

theorem retry (h : P dl) (n : ℕ) : P (dl.modMessage ({ · with retry := n })) :=
  hP.message _ (fun _ => ⟨_, _, _, _, rfl⟩) h

theorem rwcmd (h : P dl) (c : MHRWCmd) : P (dl.modMessage ({ · with rwcmd := c })) :=
  hP.message _ (fun _ => ⟨_, _, _, _, rfl⟩) h

theorem mhInfoInd (h : P dl) (mhinfo : MhInfo) : P (dl.mhInfoInd mhinfo) :=
  hP.objects _ (hP.mhinfo _ h)

/-- The flags stay. -/
theorem keepFlags (h : P dl) (f : DlVars → DlVars)
    (hf : ∀ v, (f v).dataready = v.dataready ∧ (f v).rxtimeout = v.rxtimeout ∧
      (f v).rxerror = v.rxerror ∧ (f v).txerror = v.txerror) : P (dl.modVars f) := by
  obtain ⟨hready, htimeout, hrx, htx⟩ := hf dl.vars
  refine hP.vars f ⟨fun h => hready.symm.trans h, fun h => ?_⟩ h
  rwa [errorReported, modVars_vars, htimeout, hrx, htx] at h

theorem noReply (h : P dl) : P (dl.modVars ({ · with dataready := false })) :=
  hP.vars _ ⟨fun hready => Bool.noConfusion hready, id⟩ h

theorem startTimerInitcyc (h : P dl) : P dl.startTimerInitcyc := by
  have hset : P (dl.modVars ({ · with timerElapsed := false, timerType := .tinitcycMh })) :=
    hP.keepFlags h _ fun _ => ⟨rfl, rfl, rfl, rfl⟩
  exact hP.objects ({ · with timerRunning := true }) hset

theorem freshMessage (h : P dl) : P dl.freshMessage := hP.noReply (hP.retry h 0)

theorem transferOd (h : P dl) : P dl.transferOd := hP.emit id (hP.access _ _ h)

theorem transferPd (h : P dl) : P dl.transferPd := hP.emit id (hP.access _ _ h)

theorem messageDownload (h : P dl) : P dl.messageDownload := hP.emit id (hP.access _ _ h)

theorem getError (h : P dl) : P dl.getError := by
  unfold Dl.getError
  exact hP.keepFlags h _ fun _ => ⟨rfl, rfl, rfl, rfl⟩

theorem unknownEvent (h : P dl) : P dl.unknownEvent := by
  unfold Dl.unknownEvent
  exact hP.getError (hP.keepFlags h _ fun _ => ⟨rfl, rfl, rfl, rfl⟩)

theorem resend (h : P dl) (state : MhSt) : P (dl.resend state) :=
  hP.toMessage (hP.message _ (fun _ => ⟨_, _, _, _, rfl⟩) (hP.emit id h)) state

theorem odMaster (h : P dl) : P dl.odMaster := hP.odHSm (hP.odTrigger _ h)

theorem odDevice (h : P dl) : P dl.odDevice := hP.odHSm (hP.odTrigger _ h)

theorem pdMaster (h : P dl) : P dl.pdMaster := hP.pdHSm (hP.pdTrigger _ h)

theorem pdDevice (h : P dl) : P dl.pdDevice := hP.pdHSm (hP.pdTrigger _ h)

theorem mhHandleComLost (h : P dl) : P dl.mhHandleComLost := by
  have hstopped : P (((dl.mhInfoInd .comlost).modMessage ({ · with rwcmd := .none })).emit
      .plDisableCycleTimer).stopTimer :=
    hP.objects _ (hP.emit id (hP.rwcmd (hP.mhInfoInd h _) _))
  exact hP.toMessage (hP.retry (hP.vars _ ⟨id, fun herror => Bool.noConfusion herror⟩ hstopped) 0) _

/-! ### STARTUP -/

theorem messageHSmAwaitReply1 (h : P dl) : P dl.messageHSmAwaitReply1 := by
  unfold Dl.messageHSmAwaitReply1
  split_ifs
  · exact hP.keepFlags (hP.emit id (hP.toMessage h _)) _ fun _ => ⟨rfl, rfl, rfl, rfl⟩
  · exact hP.toMessage h _

theorem messageHSmStartup2 (h : P dl) : P dl.messageHSmStartup2 := by
  unfold Dl.messageHSmStartup2
  split_ifs
  · exact hP.toMessage (hP.setMseqChange h) _
  · exact hP.toMessage (hP.setMseqChange (hP.startTimerInitcyc h)) _
  · have hcounted := hP.keepFlags (hP.freshMessage h)
      (fun v => { v with tinitcyc := v.tinitcyc + 1 }) fun _ => ⟨rfl, rfl, rfl, rfl⟩
    exact hP.toMessage (hP.transferOd hcounted) _
  · exact h

theorem confirmStartupAccess (h : P dl) (value : Octet) (errinfo : Status) :
    P (dl.confirmStartupAccess value errinfo) := by
  unfold Dl.confirmStartupAccess
  split
  · exact hP.emit id (hP.rwcmd h _)
  · exact hP.emit id (hP.rwcmd h _)
  · exact h

theorem messageHSmAwaitReply4 (h : P dl) : P dl.messageHSmAwaitReply4 := by
  unfold Dl.messageHSmAwaitReply4
  split_ifs
  · exact hP.confirmStartupAccess (hP.toMessage h _) _ _
  · exact hP.toMessage (hP.startTimerInitcyc h) _
  · exact h

theorem messageHSmErrorHandling5 (h : P dl) : P dl.messageHSmErrorHandling5 := by
  unfold Dl.messageHSmErrorHandling5
  split_ifs
  · have hidle : P (dl.modVars ({ · with timerType := .none })) :=
      hP.keepFlags h _ fun _ => ⟨rfl, rfl, rfl, rfl⟩
    exact hP.confirmStartupAccess (hP.toMessage (hP.mhInfoInd hidle _) _) _ _
  · exact hP.resend h _
  · exact h

/-! ### PREOPERATE -/

theorem messageHSmPreoperate6 (h : P dl) : P dl.messageHSmPreoperate6 := by
  unfold Dl.messageHSmPreoperate6
  split_ifs
  · exact hP.toMessage (hP.setMseqChange (hP.startTimerInitcyc h)) _
  · exact hP.toMessage (hP.setMseqChange h) _
  · exact hP.toMessage (hP.transferOd (hP.mhInfoInd h _)) _
  · exact hP.startTimerInitcyc (hP.toMessage (hP.odTrigger _ (hP.retry h 0)) _)
  · exact h

theorem messageHSmGetOd7 (h : P dl) : P dl.messageHSmGetOd7 :=
  hP.toMessage (hP.transferOd (hP.freshMessage (hP.odHSm h))) _

theorem awaitReply9Received (h : P dl) : P dl.awaitReply9Received := by
  have hod : P (((dl.modOd ({ · with trigger := .deviceMessage })).eventFlagInd
      (dl.modOd ({ · with trigger := .deviceMessage })).getCKSEvFlag).odHSm) :=
    hP.odHSm (hP.eventFlag _ (hP.odTrigger _ h))
  unfold Dl.awaitReply9Received
  dsimp only
  split_ifs
  · exact hP.toMessage (hP.startTimerInitcyc hod) _
  · exact hP.toMessage (hP.objects _ hod) _
  · exact hod
  · exact hP.toMessage (hP.odTrigger _ (hP.startTimerInitcyc hod)) _

theorem messageHSmAwaitReply9 (h : P dl) : P dl.messageHSmAwaitReply9 := by
  unfold Dl.messageHSmAwaitReply9
  split_ifs
  · exact hP.awaitReply9Received h
  · exact hP.toMessage (hP.startTimerInitcyc h) _
  · exact hP.unknownEvent h

theorem messageHSmErrorHandling10 (h : P dl) : P dl.messageHSmErrorHandling10 := by
  have hcommand : P (dl.writeMasterCommand .noComm) := hP.writeMasterCommand _ h
  have hconfirm : P (dl.writeMasterCommand .noComm).confirmPreoperateAccess := by
    unfold Dl.confirmPreoperateAccess
    split
    · exact hP.emit id hcommand
    · exact hP.emit id hcommand
    · exact hP.emit id hcommand
    · exact hP.emit id hcommand
    · exact hcommand
  unfold Dl.messageHSmErrorHandling10
  split_ifs
  · exact hP.mhHandleComLost hconfirm
  · exact hP.resend h _
  · exact h

/-! ### OPERATE -/

theorem messageHSmGetOd14 (h : P dl) : P dl.messageHSmGetOd14 := by
  have hsend : ∀ {dl : Dl}, P dl →
      P ((dl.freshMessage.emit .plEnableCycleTimer).transferPd.toMessage .response15) :=
    fun h => hP.toMessage (hP.transferPd (hP.emit id (hP.freshMessage h))) _
  unfold Dl.messageHSmGetOd14
  dsimp only
  split_ifs
  · exact hsend (hP.odHSm h)
  · exact hsend h

theorem messageHSmGetPd13 (h : P dl) : P dl.messageHSmGetPd13 := by
  unfold Dl.messageHSmGetPd13
  dsimp only
  split_ifs
  · exact hP.messageHSmGetOd14 (hP.odTrigger _ (hP.pdHSm h))
  · exact hP.messageHSmGetOd14 (hP.pdHSm h)

/-- The cycle timer is stopped and the port goes back to STARTUP. -/
theorem backToStartup (h : P dl) :
    P ((dl.emit .plDisableCycleTimer).setMseqChange.toMessage .startup2) :=
  hP.toMessage (hP.setMseqChange (hP.emit id h)) _

/-- The cycle timer is stopped and the handler becomes inactive. -/
theorem deactivate (h : P dl) :
    P (((dl.mhInfoInd .comlost).emit .plDisableCycleTimer).toMessage .inactive0) :=
  hP.toMessage (hP.emit id (hP.mhInfoInd h _)) _

theorem messageHSmOperate12 (h : P dl) : P dl.messageHSmOperate12 := by
  unfold Dl.messageHSmOperate12
  split_ifs
  · exact hP.backToStartup h
  · exact hP.deactivate h
  · exact hP.messageHSmGetPd13 (hP.pdTrigger _ h)
  · exact hP.messageHSmGetPd13 h

theorem readCks (h : P dl) : P dl.readCks :=
  hP.message _ (fun _ => ⟨_, _, _, _, rfl⟩) (hP.access _ _ h)

theorem pdInStatusInd (h : P dl) (status : ControlCode) : P (dl.pdInStatusInd status) :=
  hP.emit id h

theorem pdReceived (h : P dl) : P dl.pdReceived := by
  unfold Dl.pdReceived
  dsimp only
  split_ifs with _ hpart
  · refine hP.interleave _ ?_ (hP.pdDevice h)
    rw [hpart]
    exact Interleave.noConfusion
  · exact hP.pdDevice h
  · exact h

theorem odReceived (h : P dl) : P dl.odReceived := by
  unfold Dl.odReceived
  dsimp only
  split_ifs with _ hpart
  · refine hP.interleave _ ?_ (hP.odDevice h)
    rw [hpart]
    exact Interleave.noConfusion
  · exact hP.odDevice h
  · exact h

theorem awaitReply16Received (h : P dl) : P dl.awaitReply16Received := by
  have hcks : P ((dl.readCks.eventFlagInd dl.readCks.getCKSEvFlag).pdInStatusInd
      (dl.readCks.eventFlagInd dl.readCks.getCKSEvFlag).getCKSPDIn) :=
    hP.pdInStatusInd (hP.eventFlag _ (hP.readCks h)) _
  have hnext := hP.odMaster (hP.pdMaster (hP.odReceived (hP.pdReceived hcks)))
  exact hP.noReply (hP.toMessage (hP.messageDownload hnext) _)

theorem awaitReply16WriteParam (h : P dl) : P dl.awaitReply16WriteParam :=
  hP.toMessage (hP.messageDownload (hP.freshMessage (hP.odMaster h))) _

theorem messageHSmAwaitReply16 (h : P dl) : P dl.messageHSmAwaitReply16 := by
  unfold Dl.messageHSmAwaitReply16
  split_ifs
  · exact hP.backToStartup h
  · exact hP.deactivate h
  · exact hP.awaitReply16WriteParam h
  · exact hP.awaitReply16Received h
  · exact hP.mhHandleComLost h
  · exact hP.unknownEvent h

theorem messageHSmErrorHandling17 (h : P dl) : P dl.messageHSmErrorHandling17 := by
  unfold Dl.messageHSmErrorHandling17
  split_ifs
  · exact hP.mhHandleComLost h
  · exact hP.resend h _
  · have hpd := hP.pdDevice (hP.pdInStatusInd (hP.readCks h) dl.readCks.getCKSPDIn)
    exact hP.toMessage (hP.odHSm (hP.eventFlag _ (hP.odTrigger _ hpd))) _
  · exact h

/-- **The message handler.** -/
theorem messageHSm (h : P dl) : P dl.messageHSm := by
  unfold Dl.messageHSm
  split
  · exact hP.emit id h
  · exact hP.messageHSmAwaitReply1 h
  · exact hP.messageHSmStartup2 h
  · exact hP.messageHSmAwaitReply4 (hP.toMessage h _)
  · exact hP.messageHSmAwaitReply4 h
  · exact hP.messageHSmErrorHandling5 h
  · exact hP.messageHSmPreoperate6 h
  · exact hP.messageHSmGetOd7 h
  · exact hP.messageHSmAwaitReply9 h
  · exact hP.messageHSmAwaitReply9 h
  · exact hP.messageHSmErrorHandling10 h
  · exact h
  · exact hP.messageHSmOperate12 h
  · exact hP.messageHSmGetPd13 h
  · exact hP.messageHSmGetOd14 h
  · exact hP.messageHSmAwaitReply16 (hP.toMessage h _)
  · exact hP.messageHSmAwaitReply16 h
  · exact hP.messageHSmErrorHandling17 h

end MessageClosed

end Dl

end IolHat
