import IolHat.DataLink.Footprint

/-!
# What the on-request handlers call

The OD handler and the three handlers below it make confirmations and indications of their own
services only (`DlCall.IsOnRequest`): they hand no message to the physical layer, and they confirm a
direct parameter access only when it is the command that is stored. They do not move the message
handler either, and they leave the event flag as it is.
-/

namespace IolHat

/-- A confirmation or indication of on-request data, with `rwcmd` stored. -/
def DlCall.IsOnRequest (rwcmd : MHRWCmd) : DlCall → Prop
  | .isduTransportCnf .. | .eventInd .. | .writeDevicemodeCnf .. => True
  | .readParamCnf .. => rwcmd = .readparam
  | .writeParamCnf _ => rwcmd = .writeparam
  | _ => False

namespace Dl

/-- Where the message handler is, and the event flag. -/
def front (dl : Dl) : MhSt × MHCmd × ℕ × Bool :=
  (dl.messageHandler.state, dl.messageHandler.mhcmd, dl.messageHandler.retry,
    dl.eventHandler.eventFlag)

/-- The message handler has not moved, and there are calls of on-request data only. -/
structure OnRequestCalls (dl₀ dl : Dl) : Prop where
  front : dl.front = dl₀.front
  vars : dl.vars = dl₀.vars
  rwcmd : dl.messageHandler.rwcmd = dl₀.messageHandler.rwcmd ∨ dl.messageHandler.rwcmd = .none
  calls : ∃ cs, dl.out = dl₀.out ++ cs ∧ ∀ c ∈ cs, c.IsOnRequest dl₀.messageHandler.rwcmd

variable {dl₀ dl : Dl}

theorem OnRequestCalls.refl (dl : Dl) : dl.OnRequestCalls dl :=
  ⟨rfl, rfl, .inl rfl, [], (List.append_nil _).symm, fun _ hc => absurd hc List.not_mem_nil⟩

namespace OnRequestCalls

/-! ### Single changes -/

/-- The records of the handlers below. -/
theorem isdu (h : dl₀.OnRequestCalls dl) (f : IsduHandler → IsduHandler) :
    dl₀.OnRequestCalls (dl.modIsdu f) := ⟨h.front, h.vars, h.rwcmd, h.calls⟩

theorem cmd (h : dl₀.OnRequestCalls dl) (f : CmdHandler → CmdHandler) :
    dl₀.OnRequestCalls (dl.modCmd f) := ⟨h.front, h.vars, h.rwcmd, h.calls⟩

theorem od (h : dl₀.OnRequestCalls dl) (f : OdHandler → OdHandler) :
    dl₀.OnRequestCalls (dl.modOd f) := ⟨h.front, h.vars, h.rwcmd, h.calls⟩

theorem pd (h : dl₀.OnRequestCalls dl) (f : PdHandler → PdHandler) :
    dl₀.OnRequestCalls (dl.modPd f) := ⟨h.front, h.vars, h.rwcmd, h.calls⟩

theorem access (h : dl₀.OnRequestCalls dl) (a : Fault) (inside : Bool) :
    dl₀.OnRequestCalls (dl.access a inside) := ⟨h.front, h.vars, h.rwcmd, h.calls⟩

/-- The command is taken back. -/
theorem noRwcmd (h : dl₀.OnRequestCalls dl) :
    dl₀.OnRequestCalls (dl.modMessage ({ · with rwcmd := .none })) :=
  ⟨h.front, h.vars, .inr rfl, h.calls⟩

/-- The event handler, apart from the flag. -/
theorem event (h : dl₀.OnRequestCalls dl) {f : EventHandler → EventHandler}
    (hf : ∀ h, (f h).eventFlag = h.eventFlag) : dl₀.OnRequestCalls (dl.modEvent f) := by
  refine ⟨?_, h.vars, h.rwcmd, h.calls⟩
  rw [Dl.front, modEvent_eventHandler, hf]
  exact h.front

theorem emit (h : dl₀.OnRequestCalls dl) {c : DlCall}
    (hc : c.IsOnRequest dl₀.messageHandler.rwcmd) : dl₀.OnRequestCalls (dl.emit c) := by
  obtain ⟨cs, hout, hcs⟩ := h.calls
  refine ⟨h.front, h.vars, h.rwcmd, cs ++ [c], ?_, fun d hd => ?_⟩
  · rw [emit_out, hout, List.append_assoc]
  · obtain hd | hd := List.mem_append.mp hd
    · exact hcs d hd
    · rwa [List.mem_singleton.mp hd]

theorem odReq (h : dl₀.OnRequestCalls dl) (rw : RwDirection) (ch : ComChannel) (a len : ℕ)
    (p : OctetPtr) : dl₀.OnRequestCalls (dl.odReq rw ch a len p).2 := by
  obtain ⟨cs, hout, hcs⟩ := h.calls
  refine ⟨?_, ?_, ?_, cs, (odReq_out dl rw ch a len p).trans hout, hcs⟩
  · rw [Dl.front, odReq_messageHandler, odReq_eventHandler]
    exact h.front
  · rw [odReq_vars]
    exact h.vars
  · rw [odReq_messageHandler]
    exact h.rwcmd

/-- A command that is there now was there before. -/
theorem stored (h : dl₀.OnRequestCalls dl) {c : MHRWCmd} (hc : dl.messageHandler.rwcmd = c)
    (hne : c ≠ .none) : dl₀.messageHandler.rwcmd = c := by
  obtain hrwcmd | hrwcmd := h.rwcmd
  · exact hrwcmd.symm.trans hc
  · exact absurd (hc.symm.trans hrwcmd) hne

/-! ### The ISDU handler -/

theorem isduHSmIsduError4 (h : dl₀.OnRequestCalls dl) :
    dl₀.OnRequestCalls dl.isduHSmIsduError4 := by
  unfold Dl.isduHSmIsduError4
  split_ifs
  · exact h.isdu _
  · have habort := (h.isdu ({ · with totalIsduSeg := 0 })).odReq .read .isdu flowctrlAbort 0 .null
    exact (habort.emit (by trivial)).noRwcmd.isdu _

theorem isduHSmEnterIsduerror4 (h : dl₀.OnRequestCalls dl) :
    dl₀.OnRequestCalls dl.isduHSmEnterIsduerror4 := by
  unfold Dl.isduHSmEnterIsduerror4
  split_ifs
  · exact ((h.isdu _).emit (by trivial)).isdu _
  · exact h.isduHSmIsduError4
  · exact h.isdu _

theorem isduHSmReceptionComplete (h : dl₀.OnRequestCalls dl) :
    dl₀.OnRequestCalls dl.isduHSmReceptionComplete := by
  have hcnf : dl₀.OnRequestCalls dl.isduResponseCnf := by
    unfold Dl.isduResponseCnf
    split
    · exact h.emit (by trivial)
    · exact ((h.access _ _).access _ _).emit (by trivial)
  unfold Dl.isduHSmReceptionComplete
  exact (hcnf.isdu _).noRwcmd.isdu _

theorem isduHSmIdle1 (h : dl₀.OnRequestCalls dl) : dl₀.OnRequestCalls dl.isduHSmIdle1 := by
  unfold Dl.isduHSmIdle1
  split_ifs
  · unfold Dl.isduIdle1Deactivate
    split_ifs
    · exact ((h.emit (by trivial)).isdu _).isdu _
    · exact h.isdu _
  · split
    · unfold Dl.isduIdle1MasterMessage
      split
      · exact (h.odReq _ _ _ _ _).isdu _
      · exact h.odReq _ _ _ _ _
      · exact h.odReq _ _ _ _ _
      · exact h.odReq _ _ _ _ _
    · unfold Dl.isduIdle1DeviceMessage
      split
      · exact (h.emit (by exact h.stored ‹_› (by decide))).noRwcmd
      · exact (h.emit (by exact h.stored ‹_› (by decide))).noRwcmd
      · exact h
    · exact h

theorem isduHSmIsduRequest2 (h : dl₀.OnRequestCalls dl) :
    dl₀.OnRequestCalls dl.isduHSmIsduRequest2 := by
  unfold Dl.isduHSmIsduRequest2
  split_ifs
  · exact h.isduHSmEnterIsduerror4
  · split
    · exact (h.odReq _ _ _ _ _).isdu _
    · exact (h.isdu _).isdu _
    · exact h
  · split
    · exact (h.odReq _ _ _ _ _).isdu _
    · exact h
    · exact h

theorem storeSegment (h : dl₀.OnRequestCalls dl) : dl₀.OnRequestCalls dl.storeSegment := by
  unfold Dl.storeSegment
  exact ((h.access _ _).access _ _).isdu _

theorem readTotalLen (h : dl₀.OnRequestCalls dl) : dl₀.OnRequestCalls dl.readTotalLen := by
  unfold Dl.readTotalLen
  exact h.isdu _

theorem readTotalSeg (h : dl₀.OnRequestCalls dl) : dl₀.OnRequestCalls dl.readTotalSeg := by
  unfold Dl.readTotalSeg
  exact h.isdu _

theorem isduWait3Stored (h : dl₀.OnRequestCalls dl) : dl₀.OnRequestCalls dl.isduWait3Stored := by
  have herror : dl₀.OnRequestCalls dl.isduTimerReset.isduHSmEnterIsduerror4 :=
    (h.isdu _).isduHSmEnterIsduerror4
  have hread : dl₀.OnRequestCalls
      (dl.readTotalLen.modIsdu ({ · with currentIsduSeg := 1 })).readTotalSeg.isduTimerReset :=
    (h.readTotalLen.isdu _).readTotalSeg.isdu _
  unfold Dl.isduWait3Stored
  split_ifs
  · exact h
  · exact herror
  · unfold Dl.isduWait3Response
    dsimp only
    split_ifs
    · exact hread.isduHSmReceptionComplete
    · exact hread.isdu _
  · exact herror

theorem isduHSmIsduWait3 (h : dl₀.OnRequestCalls dl) :
    dl₀.OnRequestCalls dl.isduHSmIsduWait3 := by
  unfold Dl.isduHSmIsduWait3
  split_ifs
  · exact (h.isdu _).isduHSmEnterIsduerror4
  · exact h.isduHSmEnterIsduerror4
  · split
    · exact h.odReq _ _ _ _ _
    · exact h.storeSegment.isduWait3Stored
    · exact h

theorem isduHSmIsduResponse5 (h : dl₀.OnRequestCalls dl) :
    dl₀.OnRequestCalls dl.isduHSmIsduResponse5 := by
  have hstored : dl₀.OnRequestCalls dl.readTotalLen.readTotalSeg.storeSegment :=
    h.readTotalLen.readTotalSeg.storeSegment
  unfold Dl.isduHSmIsduResponse5
  split_ifs
  · exact h.isduHSmEnterIsduerror4
  · split
    · exact h.odReq _ _ _ _ _
    · unfold Dl.isduResponse5Stored
      dsimp only
      split_ifs
      · exact (hstored.isdu _).isduHSmReceptionComplete
      · exact hstored.isdu _
    · exact h

theorem isduHSm (h : dl₀.OnRequestCalls dl) : dl₀.OnRequestCalls dl.isduHSm := by
  unfold Dl.isduHSm
  split
  · unfold Dl.isduHSmInactive0
    split
    · exact h.isdu _
    · exact h
  · exact h.isduHSmIdle1
  · exact h.isduHSmIsduRequest2
  · exact h.isduHSmIsduWait3
  · exact h.isduHSmIsduError4
  · exact h.isduHSmIsduResponse5

/-! ### The command handler -/

theorem cmdHSm (h : dl₀.OnRequestCalls dl) : dl₀.OnRequestCalls dl.cmdHSm := by
  unfold Dl.cmdHSm
  split
  · split_ifs
    · exact h.cmd _
    · exact h
  · unfold Dl.cmdHSmIdle1
    split_ifs
    · exact h.cmd _
    · split
      · exact h.cmd _
      · exact h.cmd _
      · exact h.cmd _
      · exact h
  · exact (h.odReq _ _ _ _ _).cmd _

theorem writeMasterCommand (h : dl₀.OnRequestCalls dl) (errorinfo : Status) :
    dl₀.OnRequestCalls (dl.writeMasterCommand errorinfo) := by
  unfold Dl.writeMasterCommand
  dsimp only
  split_ifs
  · exact (h.cmd _).emit trivial
  · exact h.cmd _

/-! ### The event handler -/

private theorem markSlot_eventFlag (status : Octet) (h : EventHandler) (l : List ℕ) :
    (l.foldl (markSlot status) h).eventFlag = h.eventFlag := by
  induction l generalizing h with
  | nil => rfl
  | cons k l ih =>
    rw [List.foldl_cons, ih, markSlot]
    split_ifs <;> rfl

private theorem numEntries_eventFlag (p : ℕ → Bool) (h : EventHandler) (l : List ℕ) :
    (l.foldl (fun h k =>
      if p k then { h with numEntries := narrow8 (h.numEntries + 1) } else h) h).eventFlag =
      h.eventFlag := by
  induction l generalizing h with
  | nil => rfl
  | cons k l ih =>
    rw [List.foldl_cons, ih]
    split_ifs <;> rfl

private theorem nextSlot_eventFlag (status : Octet) (n : ℕ) (h : EventHandler) :
    (nextSlot status n h).eventFlag = h.eventFlag := by
  induction n generalizing h with
  | zero => rfl
  | succ n ih =>
    rw [nextSlot]
    dsimp only
    split_ifs
    · rfl
    · exact ih _

theorem signalDetails (h : dl₀.OnRequestCalls dl) : dl₀.OnRequestCalls dl.signalDetails := by
  unfold Dl.signalDetails
  refine event (List.foldlRecOn _ _ (h.access _ _) ?_) fun _ => rfl
  rintro dl h k -
  exact h.emit trivial

theorem signalNoDetails (h : dl₀.OnRequestCalls dl) : dl₀.OnRequestCalls dl.signalNoDetails := by
  unfold Dl.signalNoDetails
  refine List.foldlRecOn _ _ h ?_
  rintro dl h k -
  dsimp only
  split_ifs
  · exact (h.event fun _ => by rfl).emit (by trivial)
  · exact h

theorem evHSmSignalEvent3 (h : dl₀.OnRequestCalls dl) :
    dl₀.OnRequestCalls dl.evHSmSignalEvent3 := by
  have hstate : dl₀.OnRequestCalls (dl.modEvent ({ · with state := .signalevent3 })) :=
    h.event fun _ => rfl
  unfold Dl.evHSmSignalEvent3
  dsimp only
  split_ifs
  · exact hstate.signalDetails.event fun _ => rfl
  · exact hstate.signalNoDetails.event fun _ => rfl

theorem evHSmReadEvent2ForDeviceStatusCode (h : dl₀.OnRequestCalls dl) :
    dl₀.OnRequestCalls dl.evHSmReadEvent2ForDeviceStatusCode := by
  have hstatus : dl₀.OnRequestCalls (dl.modEvent ({ · with statusCode := dl.rxbuffer.get 0 })) :=
    h.event fun _ => rfl
  unfold Dl.evHSmReadEvent2ForDeviceStatusCode
  dsimp only
  split_ifs
  · exact (hstatus.event fun h => markSlot_eventFlag _ h _).event fun _ => rfl
  · exact ((hstatus.pd _).event fun h => numEntries_eventFlag _ h _).evHSmSignalEvent3

theorem eventRead (h : dl₀.OnRequestCalls dl) : dl₀.OnRequestCalls dl.eventRead := by
  have hnext : dl₀.OnRequestCalls
      ((dl.modEvent fun h => { h with evCurrent := h.evCurrent + 1 }).modEvent
        fun h => nextSlot h.statusCode (maxEvents - h.evCnt) h) :=
    (h.event fun _ => by rfl).event fun h => nextSlot_eventFlag _ _ h
  unfold Dl.eventRead
  dsimp only
  split_ifs
  · exact (hnext.event fun _ => by rfl).evHSmSignalEvent3
  · exact hnext

theorem storeEvent (h : dl₀.OnRequestCalls dl) (f : Octet → Event → Event) :
    dl₀.OnRequestCalls (dl.storeEvent f) := by
  unfold Dl.storeEvent
  exact (h.access _ _).event fun _ => rfl

theorem evHSmReadEvent2ForDeviceEventMemoryByte (h : dl₀.OnRequestCalls dl) :
    dl₀.OnRequestCalls dl.evHSmReadEvent2ForDeviceEventMemoryByte := by
  unfold Dl.evHSmReadEvent2ForDeviceEventMemoryByte
  dsimp only
  split
  · exact (h.storeEvent _).event fun _ => rfl
  · exact (h.storeEvent _).event fun _ => rfl
  · exact (h.storeEvent _).eventRead
  · exact h

theorem evHSmIdle1 (h : dl₀.OnRequestCalls dl) : dl₀.OnRequestCalls dl.evHSmIdle1 := by
  unfold Dl.evHSmIdle1
  split_ifs
  · exact h.event fun _ => rfl
  · have hstate : dl₀.OnRequestCalls (dl.modEvent ({ · with state := .eventconfirmation4 })) :=
      h.event fun _ => rfl
    unfold Dl.evConfirm
    dsimp only
    split_ifs
    · exact hstate.event fun _ => rfl
    · exact (hstate.odReq _ _ _ _ _).event fun _ => rfl
  · have hbegin : dl₀.OnRequestCalls (dl.modEvent
        ({ · with evAddr := 0, numEntries := 0, evCurrent := 0, events := .fill {} })) :=
      h.event fun _ => rfl
    unfold Dl.evBegin
    exact (hbegin.odReq _ _ _ _ _).event fun _ => by rfl
  · exact h

theorem evHSm (h : dl₀.OnRequestCalls dl) : dl₀.OnRequestCalls dl.evHSm := by
  unfold Dl.evHSm
  split
  · unfold Dl.evHSmInactive0
    split_ifs
    · exact h.event fun _ => rfl
    · exact h
  · exact h.evHSmIdle1
  · unfold Dl.evHSmReadEvent2
    split_ifs
    · exact h.event fun _ => rfl
    · split
      · exact h.odReq _ _ _ _ _
      · exact h.evHSmReadEvent2ForDeviceStatusCode
      · exact h
    · split
      · exact h.odReq _ _ _ _ _
      · exact h.evHSmReadEvent2ForDeviceEventMemoryByte
      · exact h
  · exact h
  · exact h

/-! ### The OD handler -/

theorem odHSmIsdu1 (h : dl₀.OnRequestCalls dl) : dl₀.OnRequestCalls dl.odHSmIsdu1 := by
  unfold Dl.odHSmIsdu1
  split_ifs
  · exact h.od _
  · exact h.cmdHSm.od _
  · exact h.isduHSm.od _
  · exact h.isduHSm.od _
  · exact h

theorem odHSmCommand2 (h : dl₀.OnRequestCalls dl) : dl₀.OnRequestCalls dl.odHSmCommand2 := by
  have hwritten : dl₀.OnRequestCalls
      ((dl.modOd ({ · with trigger := .none })).writeMasterCommand .noError) :=
    (h.od _).writeMasterCommand _
  unfold Dl.odHSmCommand2
  dsimp only
  split_ifs
  · exact h.cmd _
  · exact hwritten.od _
  · exact hwritten.od _
  · exact h.od _
  · exact h

theorem odHSmEvent3 (h : dl₀.OnRequestCalls dl) : dl₀.OnRequestCalls dl.odHSmEvent3 := by
  unfold Dl.odHSmEvent3
  split_ifs
  · exact h.od _
  · exact h.cmdHSm.od _
  · exact h.od _
  · exact h.evHSm.od _
  · exact h

/-- **The OD handler.** -/
theorem odHSm (h : dl₀.OnRequestCalls dl) : dl₀.OnRequestCalls dl.odHSm := by
  unfold Dl.odHSm
  split
  · unfold Dl.odHSmInactive0
    split_ifs
    · exact h.od _
    · exact h
  · exact h.odHSmIsdu1
  · exact h.odHSmCommand2
  · exact h.odHSmEvent3

end OnRequestCalls

end Dl

end IolHat
