import IolHat.DataLink.Thread

/-!
# What the on-request handlers can change

The command handler, the event handler, the ISDU handler and the OD handler above them share few
ways to change the state of the layer: each writes its own record, they hand octets to `OD_req`,
they take `rwcmd` back, and they call the layers above, with anything but process data. A property
that survives each of these ways survives the handlers, whatever state they are in.

`IsduClosed`, `EventClosed`, `SideClosed` and `OnRequestClosed` are the lists of the ways. The
theorems below each of them follow the functions of `iolink_dl.c` one by one, up to `odHSm` and to
the services by which the upper layers request an on-request transfer.
-/

namespace IolHat

/-- Process data is handed to the application layer. -/
def DlCall.IsInput : DlCall → Prop
  | .pdInputTransportInd .. => True
  | _ => False

namespace Dl

/-! ### The ISDU handler -/

/-- A property that survives every change the ISDU handler can make. -/
structure IsduClosed (P : Dl → Prop) : Prop where
  isdu : ∀ {dl : Dl} (f : IsduHandler → IsduHandler), P dl → P (dl.modIsdu f)
  rwcmd : ∀ {dl : Dl} (c : MHRWCmd), P dl → P (dl.modMessage ({ · with rwcmd := c }))
  emit : ∀ {dl : Dl} {c : DlCall}, ¬ c.IsInput → P dl → P (dl.emit c)
  access : ∀ {dl : Dl} (a : Fault) (inside : Bool), P dl → P (dl.access a inside)
  odReq : ∀ {dl : Dl} (rw : RwDirection) (ch : ComChannel) (a len : ℕ) (p : OctetPtr),
    P dl → P (dl.odReq rw ch a len p).2

namespace IsduClosed

variable {P : Dl → Prop} (hP : IsduClosed P) {dl : Dl}

include hP

theorem isduTimerStart (h : P dl) : P dl.isduTimerStart := hP.isdu _ h

theorem isduTimerReset (h : P dl) : P dl.isduTimerReset := hP.isdu _ h

theorem isduHSmIsduError4 (h : P dl) : P dl.isduHSmIsduError4 := by
  unfold Dl.isduHSmIsduError4
  split_ifs
  · exact hP.isdu _ h
  · exact hP.isdu _ (hP.rwcmd _ (hP.emit id (hP.odReq _ _ _ _ _ (hP.isdu _ h))))

theorem isduHSmEnterIsduerror4 (h : P dl) : P dl.isduHSmEnterIsduerror4 := by
  unfold Dl.isduHSmEnterIsduerror4
  split_ifs
  · exact hP.isdu _ (hP.emit id (hP.isdu _ h))
  · exact hP.isduHSmIsduError4 h
  · exact hP.isdu _ h

theorem isduResponseCnf (h : P dl) : P dl.isduResponseCnf := by
  unfold Dl.isduResponseCnf
  split
  · exact hP.emit id h
  · exact hP.emit id (hP.access _ _ (hP.access _ _ h))

theorem isduHSmReceptionComplete (h : P dl) : P dl.isduHSmReceptionComplete := by
  unfold Dl.isduHSmReceptionComplete
  exact hP.isdu _ (hP.rwcmd _ (hP.isdu _ (hP.isduResponseCnf h)))

theorem isduIdle1Deactivate (h : P dl) : P dl.isduIdle1Deactivate := by
  unfold Dl.isduIdle1Deactivate
  split_ifs
  · exact hP.isdu _ (hP.isdu _ (hP.emit id h))
  · exact hP.isdu _ h

theorem isduIdle1MasterMessage (h : P dl) : P dl.isduIdle1MasterMessage := by
  unfold Dl.isduIdle1MasterMessage
  split
  · exact hP.isdu _ (hP.odReq _ _ _ _ _ h)
  · exact hP.odReq _ _ _ _ _ h
  · exact hP.odReq _ _ _ _ _ h
  · exact hP.odReq _ _ _ _ _ h

theorem isduIdle1DeviceMessage (h : P dl) : P dl.isduIdle1DeviceMessage := by
  unfold Dl.isduIdle1DeviceMessage
  split
  · exact hP.rwcmd _ (hP.emit id h)
  · exact hP.rwcmd _ (hP.emit id h)
  · exact h

theorem isduHSmIdle1 (h : P dl) : P dl.isduHSmIdle1 := by
  unfold Dl.isduHSmIdle1
  split_ifs
  · exact hP.isduIdle1Deactivate h
  · split
    · exact hP.isduIdle1MasterMessage h
    · exact hP.isduIdle1DeviceMessage h
    · exact h

theorem isduHSmIsduRequest2 (h : P dl) : P dl.isduHSmIsduRequest2 := by
  unfold Dl.isduHSmIsduRequest2
  split_ifs
  · exact hP.isduHSmEnterIsduerror4 h
  · split
    · exact hP.isdu _ (hP.odReq _ _ _ _ _ h)
    · exact hP.isdu _ (hP.isduTimerStart h)
    · exact h
  · split
    · exact hP.isdu _ (hP.odReq _ _ _ _ _ h)
    · exact h
    · exact h

theorem storeSegment (h : P dl) : P dl.storeSegment := by
  unfold Dl.storeSegment
  exact hP.isdu _ (hP.access _ _ (hP.access _ _ h))

theorem readTotalLen (h : P dl) : P dl.readTotalLen := by
  unfold Dl.readTotalLen
  exact hP.isdu _ h

theorem readTotalSeg (h : P dl) : P dl.readTotalSeg := by
  unfold Dl.readTotalSeg
  exact hP.isdu _ h

theorem isduWait3Response (h : P dl) : P dl.isduWait3Response := by
  have hread : P (dl.readTotalLen.modIsdu ({ · with currentIsduSeg := 1 })).readTotalSeg :=
    hP.readTotalSeg (hP.isdu _ (hP.readTotalLen h))
  unfold Dl.isduWait3Response
  dsimp only
  split_ifs
  · exact hP.isduHSmReceptionComplete (hP.isduTimerReset hread)
  · exact hP.isdu _ (hP.isduTimerReset hread)

theorem isduWait3Stored (h : P dl) : P dl.isduWait3Stored := by
  unfold Dl.isduWait3Stored
  split_ifs
  · exact h
  · exact hP.isduHSmEnterIsduerror4 (hP.isduTimerReset h)
  · exact hP.isduWait3Response h
  · exact hP.isduHSmEnterIsduerror4 (hP.isduTimerReset h)

theorem isduHSmIsduWait3 (h : P dl) : P dl.isduHSmIsduWait3 := by
  unfold Dl.isduHSmIsduWait3
  split_ifs
  · exact hP.isduHSmEnterIsduerror4 (hP.isduTimerReset h)
  · exact hP.isduHSmEnterIsduerror4 h
  · split
    · exact hP.odReq _ _ _ _ _ h
    · exact hP.isduWait3Stored (hP.storeSegment h)
    · exact h

theorem isduResponse5Stored (h : P dl) : P dl.isduResponse5Stored := by
  unfold Dl.isduResponse5Stored
  dsimp only
  split_ifs
  · exact hP.isduHSmReceptionComplete (hP.isdu _ h)
  · exact hP.isdu _ h

theorem isduHSmIsduResponse5 (h : P dl) : P dl.isduHSmIsduResponse5 := by
  unfold Dl.isduHSmIsduResponse5
  split_ifs
  · exact hP.isduHSmEnterIsduerror4 h
  · split
    · exact hP.odReq _ _ _ _ _ h
    · exact hP.isduResponse5Stored (hP.storeSegment (hP.readTotalSeg (hP.readTotalLen h)))
    · exact h

theorem isduHSm (h : P dl) : P dl.isduHSm := by
  unfold Dl.isduHSm
  split
  · unfold Dl.isduHSmInactive0
    split
    · exact hP.isdu _ h
    · exact h
  · exact hP.isduHSmIdle1 h
  · exact hP.isduHSmIsduRequest2 h
  · exact hP.isduHSmIsduWait3 h
  · exact hP.isduHSmIsduError4 h
  · exact hP.isduHSmIsduResponse5 h

end IsduClosed

/-! ### The event handler -/

/-- A property that survives every change the event handler can make. -/
structure EventClosed (P : Dl → Prop) : Prop where
  event : ∀ {dl : Dl} (f : EventHandler → EventHandler), P dl → P (dl.modEvent f)
  pdValid : ∀ {dl : Dl} (v : Bool), P dl → P (dl.modPd ({ · with pdValid := v }))
  emit : ∀ {dl : Dl} {c : DlCall}, ¬ c.IsInput → P dl → P (dl.emit c)
  access : ∀ {dl : Dl} (a : Fault) (inside : Bool), P dl → P (dl.access a inside)
  odReq : ∀ {dl : Dl} (rw : RwDirection) (ch : ComChannel) (a len : ℕ) (p : OctetPtr),
    P dl → P (dl.odReq rw ch a len p).2

namespace EventClosed

variable {P : Dl → Prop} (hP : EventClosed P) {dl : Dl}

include hP

theorem signalDetails (h : P dl) : P dl.signalDetails := by
  unfold Dl.signalDetails
  refine hP.event _ (List.foldlRecOn _ _ (hP.access _ _ h) ?_)
  rintro dl h k -
  exact hP.emit id h

theorem signalNoDetails (h : P dl) : P dl.signalNoDetails := by
  unfold Dl.signalNoDetails
  refine List.foldlRecOn _ _ h ?_
  rintro dl h k -
  dsimp only
  split_ifs
  · exact hP.emit id (hP.event _ h)
  · exact h

theorem evHSmSignalEvent3 (h : P dl) : P dl.evHSmSignalEvent3 := by
  unfold Dl.evHSmSignalEvent3
  dsimp only
  split_ifs
  · exact hP.event _ (hP.signalDetails (hP.event _ h))
  · exact hP.event _ (hP.signalNoDetails (hP.event _ h))

theorem evHSmReadEvent2ForDeviceStatusCode (h : P dl) :
    P dl.evHSmReadEvent2ForDeviceStatusCode := by
  unfold Dl.evHSmReadEvent2ForDeviceStatusCode
  dsimp only
  split_ifs
  · exact hP.event _ (hP.event _ (hP.event _ h))
  · exact hP.evHSmSignalEvent3 (hP.event _ (hP.pdValid _ (hP.event _ h)))

theorem eventRead (h : P dl) : P dl.eventRead := by
  have hnext := hP.event (fun h => nextSlot h.statusCode (maxEvents - h.evCnt) h)
    (hP.event (fun h => { h with evCurrent := h.evCurrent + 1 }) h)
  unfold Dl.eventRead
  dsimp only
  split_ifs
  · exact hP.evHSmSignalEvent3 (hP.event _ hnext)
  · exact hnext

theorem storeEvent (h : P dl) (f : Octet → Event → Event) : P (dl.storeEvent f) := by
  unfold Dl.storeEvent
  exact hP.event _ (hP.access _ _ h)

theorem evHSmReadEvent2ForDeviceEventMemoryByte (h : P dl) :
    P dl.evHSmReadEvent2ForDeviceEventMemoryByte := by
  unfold Dl.evHSmReadEvent2ForDeviceEventMemoryByte
  dsimp only
  split
  · exact hP.event _ (hP.storeEvent h _)
  · exact hP.event _ (hP.storeEvent h _)
  · exact hP.eventRead (hP.storeEvent h _)
  · exact h

theorem evHSmIdle1 (h : P dl) : P dl.evHSmIdle1 := by
  unfold Dl.evHSmIdle1
  split_ifs
  · exact hP.event _ h
  · unfold Dl.evConfirm
    dsimp only
    split_ifs
    · exact hP.event _ (hP.event _ h)
    · exact hP.event _ (hP.odReq _ _ _ _ _ (hP.event _ h))
  · unfold Dl.evBegin
    exact hP.event _ (hP.odReq _ _ _ _ _ (hP.event _ h))
  · exact h

theorem evHSm (h : P dl) : P dl.evHSm := by
  unfold Dl.evHSm
  split
  · unfold Dl.evHSmInactive0
    split_ifs
    · exact hP.event _ h
    · exact h
  · exact hP.evHSmIdle1 h
  · unfold Dl.evHSmReadEvent2
    split_ifs
    · exact hP.event _ h
    · split
      · exact hP.odReq _ _ _ _ _ h
      · exact hP.evHSmReadEvent2ForDeviceStatusCode h
      · exact h
    · split
      · exact hP.odReq _ _ _ _ _ h
      · exact hP.evHSmReadEvent2ForDeviceEventMemoryByte h
      · exact h
  · exact h
  · exact h

theorem ehConf (h : P dl) (cmd : HandlerCmd) : P (dl.ehConf cmd) := hP.evHSm (hP.event _ h)

end EventClosed

/-! ### The command handler -/

/-- A property that survives every change the command and the event handler can make. -/
structure SideClosed (P : Dl → Prop) : Prop where
  cmd : ∀ {dl : Dl} (f : CmdHandler → CmdHandler), P dl → P (dl.modCmd f)
  event : ∀ {dl : Dl} (f : EventHandler → EventHandler), P dl → P (dl.modEvent f)
  pdValid : ∀ {dl : Dl} (v : Bool), P dl → P (dl.modPd ({ · with pdValid := v }))
  emit : ∀ {dl : Dl} {c : DlCall}, ¬ c.IsInput → P dl → P (dl.emit c)
  access : ∀ {dl : Dl} (a : Fault) (inside : Bool), P dl → P (dl.access a inside)
  odReq : ∀ {dl : Dl} (rw : RwDirection) (ch : ComChannel) (a len : ℕ) (p : OctetPtr),
    P dl → P (dl.odReq rw ch a len p).2

theorem SideClosed.eventOnly {P : Dl → Prop} (hP : SideClosed P) : EventClosed P :=
  ⟨hP.event, hP.pdValid, hP.emit, hP.access, hP.odReq⟩

namespace SideClosed

variable {P : Dl → Prop} (hP : SideClosed P) {dl : Dl}

include hP

theorem cmdHSm (h : P dl) : P dl.cmdHSm := by
  unfold Dl.cmdHSm
  split
  · split_ifs
    · exact hP.cmd _ h
    · exact h
  · unfold Dl.cmdHSmIdle1
    split_ifs
    · exact hP.cmd _ h
    · split
      · exact hP.cmd _ h
      · exact hP.cmd _ h
      · exact hP.cmd _ h
      · exact h
  · exact hP.cmd _ (hP.odReq _ _ _ _ _ h)

theorem chConf (h : P dl) (cmd : HandlerCmd) : P (dl.chConf cmd) := hP.cmdHSm (hP.cmd _ h)

theorem writeMasterCommand (h : P dl) (errorinfo : Status) :
    P (dl.writeMasterCommand errorinfo) := by
  unfold Dl.writeMasterCommand
  dsimp only
  split_ifs
  · exact hP.emit id (hP.cmd _ h)
  · exact hP.cmd _ h

theorem controlReq (h : P dl) (controlcode : ControlCode) : P (dl.controlReq controlcode).2 := by
  unfold Dl.controlReq
  split_ifs
  · exact h
  · exact hP.cmdHSm (hP.cmd _ h)

theorem evHSm (h : P dl) : P dl.evHSm := hP.eventOnly.evHSm h

theorem ehConf (h : P dl) (cmd : HandlerCmd) : P (dl.ehConf cmd) := hP.eventOnly.ehConf h cmd

end SideClosed

/-! ### The OD handler and the services -/

/-- A property that survives every change the on-request handlers can make. -/
structure OnRequestClosed (P : Dl → Prop) : Prop where
  isdu : ∀ {dl : Dl} (f : IsduHandler → IsduHandler), P dl → P (dl.modIsdu f)
  cmd : ∀ {dl : Dl} (f : CmdHandler → CmdHandler), P dl → P (dl.modCmd f)
  event : ∀ {dl : Dl} (f : EventHandler → EventHandler), P dl → P (dl.modEvent f)
  objects : ∀ {dl : Dl} (f : DlObjects → DlObjects), P dl → P (dl.modObjects f)
  od : ∀ {dl : Dl} (f : OdHandler → OdHandler),
    (∀ h, (f h).odRxlen = h.odRxlen ∧ (f h).odTxlen = h.odTxlen ∧
      (f h).odoutBuffer = h.odoutBuffer) → P dl → P (dl.modOd f)
  rwcmd : ∀ {dl : Dl} (c : MHRWCmd), P dl → P (dl.modMessage ({ · with rwcmd := c }))
  pdValid : ∀ {dl : Dl} (v : Bool), P dl → P (dl.modPd ({ · with pdValid := v }))
  emit : ∀ {dl : Dl} {c : DlCall}, ¬ c.IsInput → P dl → P (dl.emit c)
  access : ∀ {dl : Dl} (a : Fault) (inside : Bool), P dl → P (dl.access a inside)
  odReq : ∀ {dl : Dl} (rw : RwDirection) (ch : ComChannel) (a len : ℕ) (p : OctetPtr),
    P dl → P (dl.odReq rw ch a len p).2

theorem OnRequestClosed.isduOnly {P : Dl → Prop} (hP : OnRequestClosed P) : IsduClosed P :=
  ⟨hP.isdu, hP.rwcmd, hP.emit, hP.access, hP.odReq⟩

theorem OnRequestClosed.side {P : Dl → Prop} (hP : OnRequestClosed P) : SideClosed P :=
  ⟨hP.cmd, hP.event, hP.pdValid, hP.emit, hP.access, hP.odReq⟩

namespace OnRequestClosed

variable {P : Dl → Prop} (hP : OnRequestClosed P) {dl : Dl}

include hP

theorem isduHSm (h : P dl) : P dl.isduHSm := hP.isduOnly.isduHSm h

theorem ihConf (h : P dl) (cmd : HandlerCmd) : P (dl.ihConf cmd) := hP.isduHSm (hP.isdu _ h)

theorem encodeIsdu (h : P dl) (vl : IsduVl) : P (dl.encodeIsdu vl) := by
  unfold Dl.encodeIsdu
  exact hP.isdu _ (hP.access _ _ (hP.access _ _ h))

theorem isduTransportReq (h : P dl) (vl : IsduVl) : P (dl.isduTransportReq vl).2 := by
  unfold Dl.isduTransportReq
  split_ifs
  · exact hP.emit id h
  · exact hP.emit id h
  · exact hP.emit id h
  · exact hP.encodeIsdu (hP.isdu _ h) vl
  · dsimp only
    split_ifs
    · exact hP.objects _ (hP.rwcmd _ (hP.isdu _ (hP.isduOnly.readTotalSeg (hP.isdu _
        (hP.encodeIsdu (hP.isdu _ h) vl)))))
    · exact hP.rwcmd _ (hP.isdu _ (hP.isduOnly.readTotalSeg (hP.isdu _
        (hP.encodeIsdu (hP.isdu _ h) vl))))

theorem cmdHSm (h : P dl) : P dl.cmdHSm := hP.side.cmdHSm h

theorem chConf (h : P dl) (cmd : HandlerCmd) : P (dl.chConf cmd) := hP.side.chConf h cmd

theorem writeMasterCommand (h : P dl) (errorinfo : Status) :
    P (dl.writeMasterCommand errorinfo) := hP.side.writeMasterCommand h errorinfo

theorem controlReq (h : P dl) (controlcode : ControlCode) : P (dl.controlReq controlcode).2 :=
  hP.side.controlReq h controlcode

theorem evHSm (h : P dl) : P dl.evHSm := hP.side.evHSm h

theorem ehConf (h : P dl) (cmd : HandlerCmd) : P (dl.ehConf cmd) := hP.side.ehConf h cmd

theorem odState (h : P dl) (state : OdhSt) : P (dl.modOd ({ · with state := state })) :=
  hP.od _ (fun _ => ⟨rfl, rfl, rfl⟩) h

theorem odTrigger (h : P dl) (trigger : Trigger) : P (dl.modOd ({ · with trigger := trigger })) :=
  hP.od _ (fun _ => ⟨rfl, rfl, rfl⟩) h

theorem odHSmIsdu1 (h : P dl) : P dl.odHSmIsdu1 := by
  unfold Dl.odHSmIsdu1
  split_ifs
  · exact hP.odState h _
  · exact hP.odState (hP.cmdHSm h) _
  · exact hP.odState (hP.isduHSm h) _
  · exact hP.odTrigger (hP.isduHSm h) _
  · exact h

theorem odHSmCommand2 (h : P dl) : P dl.odHSmCommand2 := by
  unfold Dl.odHSmCommand2
  dsimp only
  split_ifs
  · exact hP.cmd _ h
  · exact hP.odState (hP.writeMasterCommand (hP.odTrigger h _) _) _
  · exact hP.odState (hP.writeMasterCommand (hP.odTrigger h _) _) _
  · exact hP.odTrigger h _
  · exact h

theorem odHSmEvent3 (h : P dl) : P dl.odHSmEvent3 := by
  unfold Dl.odHSmEvent3
  split_ifs
  · exact hP.odState h _
  · exact hP.odState (hP.cmdHSm h) _
  · exact hP.odState h _
  · exact hP.odTrigger (hP.evHSm h) _
  · exact h

/-- **The OD handler.** -/
theorem odHSm (h : P dl) : P dl.odHSm := by
  unfold Dl.odHSm
  split
  · unfold Dl.odHSmInactive0
    split_ifs
    · exact hP.odState h _
    · exact h
  · exact hP.odHSmIsdu1 h
  · exact hP.odHSmCommand2 h
  · exact hP.odHSmEvent3 h

theorem odMaster (h : P dl) : P dl.odMaster := hP.odHSm (hP.odTrigger h _)

theorem odDevice (h : P dl) : P dl.odDevice := hP.odHSm (hP.odTrigger h _)

theorem ohConf (h : P dl) (cmd : HandlerCmd) : P (dl.ohConf cmd) :=
  hP.odHSm (hP.od _ (fun _ => ⟨rfl, rfl, rfl⟩) h)

theorem setOhIhEhConfActive (h : P dl) (cmd : HandlerCmd) : P (dl.setOhIhEhConfActive cmd) :=
  hP.ehConf (hP.ihConf (hP.ohConf h cmd) cmd) cmd

theorem refuseParam (h : P dl) (write : Bool) (errinfo : Status) :
    P (dl.refuseParam write errinfo) := by
  unfold Dl.refuseParam
  split_ifs
  · exact hP.emit id h
  · exact hP.emit id h

theorem readWriteParamReq (h : P dl) (address : UInt16) (value : Octet) (write : Bool) :
    P (dl.readWriteParamReq address value write).2 := by
  have haddr : ∀ h : OdHandler, ({ h with dataAddr := address.toNat }).odRxlen = h.odRxlen ∧
      ({ h with dataAddr := address.toNat }).odTxlen = h.odTxlen ∧
      ({ h with dataAddr := address.toNat }).odoutBuffer = h.odoutBuffer :=
    fun _ => ⟨rfl, rfl, rfl⟩
  unfold Dl.readWriteParamReq
  dsimp only
  cases write with
  | true =>
    simp only [if_true]
    split_ifs <;> dsimp only
    · exact hP.refuseParam (hP.rwcmd _ h) _ _
    · exact hP.refuseParam (hP.rwcmd _ h) _ _
    · exact hP.objects _ (hP.od ({ · with dataValue := value }) (fun _ => ⟨rfl, rfl, rfl⟩)
        (hP.od _ haddr (hP.rwcmd _ h)))
    · exact hP.od ({ · with dataValue := value }) (fun _ => ⟨rfl, rfl, rfl⟩)
        (hP.od _ haddr (hP.rwcmd _ h))
  | false =>
    simp only [Bool.false_eq_true, if_false]
    split_ifs <;> dsimp only
    · exact hP.refuseParam (hP.rwcmd _ h) _ _
    · exact hP.refuseParam (hP.rwcmd _ h) _ _
    · exact hP.objects _ (hP.od _ haddr (hP.rwcmd _ h))
    · exact hP.od _ haddr (hP.rwcmd _ h)

end OnRequestClosed

end Dl

end IolHat
