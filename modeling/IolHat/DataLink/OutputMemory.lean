import IolHat.DataLink.Output

/-!
# Who writes the output octets

The application layer leaves the output octets in `pdoutdata` and reads them back from there
(`DL_PDOutputUpdate_req`, `DL_PDOutputGet_req`). The thread of the port only sends them:
`pdoutdata_linkStep`. Only `iolink_dl_reset` clears them.
-/

namespace IolHat

open Octets

namespace Dl

variable {dl dl' : Dl} {data : Buffer Octet pdMaxSize}

/-- The output octets are these. -/
def HoldsOutput (data : Buffer Octet pdMaxSize) (dl : Dl) : Prop := dl.pdHandler.pdoutdata = data

namespace HoldsOutput

theorem of_kept (h : dl.HoldsOutput data) (hk : dl.OutputKept dl') : dl'.HoldsOutput data := by
  obtain ⟨v, hv⟩ := hk.pd
  rw [HoldsOutput, hv]
  exact h

theorem odReq (h : dl.HoldsOutput data) (rw : RwDirection) (ch : ComChannel) (a len : ℕ)
    (p : OctetPtr) : (dl.odReq rw ch a len p).2.HoldsOutput data := by
  rw [HoldsOutput, odReq_pdHandler]
  exact h

theorem pdReq (h : dl.HoldsOutput data) (pdinlength : ℕ) (pdout : Option OctetPtr)
    (addr len : ℕ) : (dl.pdReq pdinlength pdout addr len).2.HoldsOutput data := by
  obtain ⟨tx, fs, heq⟩ := dl.pdReq_frame pdinlength pdout addr len
  rw [heq]
  exact h

/-- The process data handler, in any of its states. -/
theorem pdHSm (h : dl.HoldsOutput data) : dl.pdHSm.HoldsOutput data := by
  unfold Dl.pdHSm
  split
  · unfold Dl.pdHSmInactive0
    split
    · exact h
    · exact h
    · split_ifs
      · exact pdReq (by exact h) _ _ _ _
      · exact h
  · unfold Dl.pdHSmPdSingle1
    split
    · exact pdReq (by exact h) _ _ _ _
    · exact h
    · split_ifs <;> exact h
  · unfold Dl.pdHSmPdInInterleave2
    split_ifs
    · exact h
    · split
      · exact odReq (by exact h) _ _ _ _ _
      · unfold Dl.pdInInterleaveReceived
        dsimp only
        split_ifs <;> exact h
      · exact h
  · unfold Dl.pdHSmPdOutInterleave3
    split_ifs
    · exact h
    · split
      · have hreq : HoldsOutput data (dl.modPd ({ · with trigger := .none })) := h
        exact odReq (hreq.pdReq _ _ _ _) _ _ _ _ _
      · dsimp only
        split_ifs <;> exact h
      · exact h

theorem setMseqChange (h : dl.HoldsOutput data) : dl.setMseqChange.HoldsOutput data := by
  unfold Dl.setMseqChange
  dsimp only
  split_ifs <;> exact h

theorem messageClosed (data : Buffer Octet pdMaxSize) : MessageClosed (HoldsOutput data) where
  odHSm h := h.of_kept ((outputKept_closed _).odHSm (.refl _))
  pdHSm h := h.pdHSm
  setMseqChange h := h.setMseqChange
  writeMasterCommand _ h := h.of_kept ((outputKept_closed _).writeMasterCommand (.refl _) _)
  message _ _ h := h
  interleave _ _ h := h
  odTrigger _ h := h
  pdTrigger _ h := h
  eventFlag _ h := h
  mhinfo _ h := h
  vars _ _ h := h
  objects _ h := h
  emit _ h := h
  access _ _ h := h

theorem messageHSm (h : dl.HoldsOutput data) : dl.messageHSm.HoldsOutput data :=
  (messageClosed data).messageHSm h

theorem phConf (h : dl.HoldsOutput data) (cmd : PHCmd) : (dl.phConf cmd).HoldsOutput data := by
  unfold Dl.phConf
  exact pdHSm h

theorem modeClosed (data : Buffer Octet pdMaxSize) : ModeClosed (HoldsOutput data) where
  ohConf cmd h := h.of_kept ((outputKept_closed _).ohConf (.refl _) cmd)
  ihConf cmd h := h.of_kept ((outputKept_closed _).ihConf (.refl _) cmd)
  ehConf cmd h := h.of_kept ((outputKept_closed _).ehConf (.refl _) cmd)
  chConf cmd h := h.of_kept ((outputKept_closed _).chConf (.refl _) cmd)
  phConf _ h := h.phConf _
  mhConf _ h := messageHSm h
  mode _ h := h
  modeInd _ h := h

theorem modeHSm (h : dl.HoldsOutput data) : dl.modeHSm.HoldsOutput data :=
  (modeClosed data).modeHSm h

theorem chConf (h : dl.HoldsOutput data) (cmd : HandlerCmd) :
    (dl.chConf cmd).HoldsOutput data := (modeClosed data).chConf cmd h

theorem wurqEstablished (h : dl.HoldsOutput data) : dl.wurqEstablished.HoldsOutput data := by
  have hup : ((((dl.modVars ({ · with cycbyte := dl.pl.cycletime })).modMode
      ({ · with state := .startup2 })).toMessage .awReply1).messageHSm.chConf
        .active).HoldsOutput data := chConf (messageHSm (by exact h)) _
  unfold Dl.wurqEstablished
  dsimp only
  generalize ((((dl.modVars ({ · with cycbyte := dl.pl.cycletime })).modMode
      ({ · with state := .startup2 })).toMessage .awReply1).messageHSm.chConf .active) = up at hup ⊢
  split
  · exact hup
  · have hdown : ((((up.emit (.modeInd .startup)).emit (.modeIndBaud .inactive)).modMode
        ({ · with state := .idle0 })).toMessage .inactive0 |>.chConf .inactive).HoldsOutput data :=
      chConf (by exact hup) _
    exact hdown

theorem wurqRecv (h : dl.HoldsOutput data) : dl.wurqRecv.HoldsOutput data := by
  unfold Dl.wurqRecv
  dsimp only
  split_ifs
  · exact h
  · exact wurqEstablished (by exact h)

theorem timeout (h : dl.HoldsOutput data) : dl.handleTimerTimeout.HoldsOutput data := by
  unfold Dl.handleTimerTimeout
  dsimp only
  split_ifs
  · exact messageHSm (by exact h)
  · exact h

theorem rxrdy (h : dl.HoldsOutput data) (octets : List Octet) :
    (dl.rxrdy octets).HoldsOutput data := by
  unfold Dl.rxrdy
  dsimp only
  split_ifs
  · exact h
  · exact messageHSm (by exact h)

theorem readWriteReq (h : dl.HoldsOutput data) (address : ℕ) (value : Octet) (write : Bool) :
    (dl.readWriteReq address value write).2.HoldsOutput data := by
  unfold Dl.readWriteReq Dl.refuseAccess
  split_ifs <;> exact h

theorem writeDevicemodeReq (h : dl.HoldsOutput data) (devicemode : DlMode) :
    (dl.writeDevicemodeReq devicemode).2.HoldsOutput data := by
  have hcmd : ∀ f, (dl.modCmd f).cmdHSm.HoldsOutput data := fun f =>
    h.of_kept ((outputKept_closed dl).cmdHSm ((outputKept_closed dl).cmd f (.refl dl)))
  unfold Dl.writeDevicemodeReq
  dsimp only
  split_ifs
  · exact h
  · exact hcmd _
  · exact hcmd _
  · exact hcmd _

end HoldsOutput

end Dl

/-- An input by which the application layer writes the output octets, or `iolink_dl_reset` clears
them. -/
def LinkInput.WritesOutput : LinkInput → Prop
  | .dl (.pdOutputUpdate _) | .dl .reset => True
  | _ => False

/-- **The thread of the port sends the output octets and does not change them.** -/
theorem Dl.pdoutdata_linkStep (dl : Dl) {i : LinkInput} (hi : ¬ i.WritesOutput) :
    (dl.linkStep i).pdHandler.pdoutdata = dl.pdHandler.pdoutdata := by
  have h : dl.HoldsOutput dl.pdHandler.pdoutdata := rfl
  have herror : dl.handleError.HoldsOutput dl.pdHandler.pdoutdata :=
    handleError_of_vars (P := HoldsOutput dl.pdHandler.pdoutdata) (fun _ h => h)
      HoldsOutput.messageHSm h
  cases i with
  | isduTransport vl => exact h.of_kept ((outputKept_closed dl).isduTransportReq (.refl dl) vl)
  | readParam address =>
    exact h.of_kept ((outputKept_closed dl).readWriteParamReq (.refl dl) address 0 false)
  | writeParam address value =>
    exact h.of_kept ((outputKept_closed dl).readWriteParamReq (.refl dl) address value true)
  | dl i =>
    cases i with
    | surroundings pl => rfl
    | rxrdy octets => exact h.rxrdy octets
    | rxerr => exact herror
    | txerr => exact herror
    | wurq => exact h.wurqRecv
    | mdh =>
      simp only [Dl.linkStep, Dl.step]
      split_ifs
      · exact HoldsOutput.modeHSm (by exact h)
      · rfl
    | mh =>
      simp only [Dl.linkStep, Dl.step]
      split_ifs
      · exact HoldsOutput.messageHSm (by exact h)
      · rfl
    | timeout => exact HoldsOutput.timeout (by exact h)
    -- The mode request sets lengths and addresses, not the octets.
    | setMode mode valuelist =>
      simp only [Dl.linkStep, Dl.step, Dl.setModeReq]
      split_ifs <;> rfl
    | read address => exact h.readWriteReq address 0 false
    | write address value => exact h.readWriteReq address value true
    | writeDevicemode devicemode => exact h.writeDevicemodeReq devicemode
    | control controlcode =>
      exact h.of_kept ((outputKept_closed dl).controlReq (.refl dl) controlcode)
    | pdOutputUpdate outputdata => exact absurd trivial hi
    | eventConf => rfl
    | reset => exact absurd trivial hi

end IolHat
