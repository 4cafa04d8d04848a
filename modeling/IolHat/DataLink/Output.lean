import IolHat.DataLink.ThreadFootprint
import IolHat.Lib.Run

/-!
# Process data output

The output octets of a port lie in `pdoutdata`. While process data are exchanged, the message
handler prepares the next master message when the device has answered the last one: the process
data handler copies the octets behind the two head octets of `txbuffer`, and the OD handler puts
the on-request data behind them.

* `OutputKept` is what the on-request handlers leave alone, the octets of `txbuffer` between the
  head and the on-request data among it.
* `Wired` is the invariant of every run: the places and lengths of the output octets belong
  together. The interleaved exchange is never entered.
* `nextOutput` are the octets that the next message carries; `sentOutput_rxrdy` says so.
-/

namespace IolHat

open Octets

namespace MessageHandler

/-- The pending command is another one. -/
@[simps] def withRwcmd (h : MessageHandler) (c : MHRWCmd) : MessageHandler := { h with rwcmd := c }

end MessageHandler

namespace PdHandler

/-- The output octets are other ones. -/
@[simps] def withPdoutdata (h : PdHandler) (data : Buffer Octet pdMaxSize) : PdHandler :=
  { h with pdoutdata := data }

/-- The trigger is another one. -/
@[simps] def withTrigger (h : PdHandler) (t : Trigger) : PdHandler := { h with trigger := t }

/-- The validity of the input is another one. -/
@[simps] def withPdValid (h : PdHandler) (v : Bool) : PdHandler := { h with pdValid := v }

end PdHandler

namespace Dl

/-! ### What the on-request handlers leave alone -/

/-- The octets of `txbuffer` between the head and the on-request data. -/
def outputOctets (dl : Dl) : List Octet := dl.txbuffer.slice 2 (dl.odHandler.odoutBuffer - 2)

/-- Nothing that cyclic exchange works with has changed. -/
structure OutputKept (dl₀ dl : Dl) : Prop where
  mode : dl.modeHandler = dl₀.modeHandler
  message : ∃ c, dl.messageHandler = dl₀.messageHandler.withRwcmd c
  pd : ∃ v, dl.pdHandler = dl₀.pdHandler.withPdValid v
  vars : dl.vars = dl₀.vars
  rxbuffer : dl.rxbuffer = dl₀.rxbuffer
  odoutBuffer : dl.odHandler.odoutBuffer = dl₀.odHandler.odoutBuffer
  octets : dl.outputOctets = dl₀.outputOctets
  odTxlen : dl.odHandler.odTxlen ≤ max dl₀.odHandler.odTxlen dl₀.messageHandler.odLen

theorem OutputKept.refl (dl : Dl) : dl.OutputKept dl where
  mode := rfl
  message := ⟨dl.messageHandler.rwcmd, rfl⟩
  pd := ⟨dl.pdHandler.pdValid, rfl⟩
  vars := rfl
  rxbuffer := rfl
  odoutBuffer := rfl
  octets := rfl
  odTxlen := Nat.le_max_left _ _

theorem OutputKept.odLen {dl₀ dl : Dl} (h : dl₀.OutputKept dl) :
    dl.messageHandler.odLen = dl₀.messageHandler.odLen := by
  obtain ⟨c, hc⟩ := h.message
  rw [hc, MessageHandler.withRwcmd_odLen]

/-- `OD_req` writes the head, and from the place of the on-request data on. -/
theorem odReq_txbuffer (dl : Dl) (rw : RwDirection) (ch : ComChannel) (a len : ℕ) (p : OctetPtr) :
    ∃ head tail, head.length ≤ 2 ∧ (dl.odReq rw ch a len p).2.txbuffer =
      (dl.txbuffer.write 0 head).write dl.odHandler.odoutBuffer tail := by
  unfold odReq
  split_ifs
  · exact ⟨[], [], by simp, by simp⟩
  · exact ⟨[], [], by simp, by simp⟩
  · cases ch with
    | process => exact ⟨dl.mHeader rw _ a, [], Nat.le_refl 2, (Buffer.write_nil _ _).symm⟩
    | page | diagnosis | isdu =>
      cases rw with
      | read => exact ⟨dl.mHeader .read _ a, [], Nat.le_refl 2, (Buffer.write_nil _ _).symm⟩
      | write => exact ⟨dl.mHeader .write _ a, _, Nat.le_refl 2, rfl⟩

theorem odReq_odoutBuffer (dl : Dl) (rw : RwDirection) (ch : ComChannel) (a len : ℕ)
    (p : OctetPtr) :
    (dl.odReq rw ch a len p).2.odHandler.odoutBuffer = dl.odHandler.odoutBuffer := by
  obtain ⟨_, _, _, _, h⟩ := dl.odReq_frame rw ch a len p
  rw [h]

theorem odReq_outputOctets (dl : Dl) (rw : RwDirection) (ch : ComChannel) (a len : ℕ)
    (p : OctetPtr) : (dl.odReq rw ch a len p).2.outputOctets = dl.outputOctets := by
  obtain ⟨head, tail, hhead, htx⟩ := dl.odReq_txbuffer rw ch a len p
  rw [outputOctets, outputOctets, odReq_odoutBuffer, htx]
  rcases Nat.lt_or_ge dl.odHandler.odoutBuffer 2 with hlt | hge
  · simp [Buffer.slice, Nat.sub_eq_zero_of_le (Nat.le_of_lt hlt)]
  · rw [Buffer.slice_write_of_disjoint _ _ (.inr (by omega)),
      Buffer.slice_write_of_disjoint _ _ (.inl (by omega))]

theorem odReq_odTxlen_le (dl : Dl) (rw : RwDirection) (ch : ComChannel) (a len : ℕ)
    (p : OctetPtr) : (dl.odReq rw ch a len p).2.odHandler.odTxlen ≤
      max dl.odHandler.odTxlen dl.messageHandler.odLen := by
  unfold odReq
  split_ifs
  · exact Nat.le_max_left _ _
  · exact Nat.le_max_left _ _
  · cases ch <;> cases rw <;>
      simp only [modOd_odHandler, writeTx_odHandler, access_odHandler] <;>
      omega

/-- **The on-request handlers leave the output alone.** -/
theorem outputKept_closed (dl₀ : Dl) : OnRequestClosed dl₀.OutputKept where
  isdu _ h := ⟨h.mode, h.message, h.pd, h.vars, h.rxbuffer, h.odoutBuffer, h.octets, h.odTxlen⟩
  cmd _ h := ⟨h.mode, h.message, h.pd, h.vars, h.rxbuffer, h.odoutBuffer, h.octets, h.odTxlen⟩
  event _ h := ⟨h.mode, h.message, h.pd, h.vars, h.rxbuffer, h.odoutBuffer, h.octets, h.odTxlen⟩
  objects _ h :=
    ⟨h.mode, h.message, h.pd, h.vars, h.rxbuffer, h.odoutBuffer, h.octets, h.odTxlen⟩
  od f hf h := by
    obtain ⟨-, htx, hout⟩ := hf _
    refine ⟨h.mode, h.message, h.pd, h.vars, h.rxbuffer, hout.trans h.odoutBuffer, ?_, ?_⟩
    · rw [← h.octets, outputOctets, outputOctets, modOd_odHandler, modOd_txbuffer, hout]
    · rw [modOd_odHandler, htx]
      exact h.odTxlen
  rwcmd c h := by
    obtain ⟨_, hc⟩ := h.message
    refine ⟨h.mode, ⟨c, ?_⟩, h.pd, h.vars, h.rxbuffer, h.odoutBuffer, h.octets, h.odTxlen⟩
    rw [modMessage_messageHandler, hc]
    rfl
  pdValid v h := by
    obtain ⟨_, hv⟩ := h.pd
    refine ⟨h.mode, h.message, ⟨v, ?_⟩, h.vars, h.rxbuffer, h.odoutBuffer, h.octets, h.odTxlen⟩
    rw [modPd_pdHandler, hv]
    rfl
  emit _ h := ⟨h.mode, h.message, h.pd, h.vars, h.rxbuffer, h.odoutBuffer, h.octets, h.odTxlen⟩
  access _ _ h :=
    ⟨h.mode, h.message, h.pd, h.vars, h.rxbuffer, h.odoutBuffer, h.octets, h.odTxlen⟩
  odReq {dl} rw ch a len p h := by
    refine ⟨?_, ?_, ?_, ?_, ?_, ?_, ?_, ?_⟩
    · rw [odReq_modeHandler]
      exact h.mode
    · rw [odReq_messageHandler]
      exact h.message
    · rw [odReq_pdHandler]
      exact h.pd
    · rw [odReq_vars]
      exact h.vars
    · rw [odReq_rxbuffer]
      exact h.rxbuffer
    · rw [odReq_odoutBuffer]
      exact h.odoutBuffer
    · rw [odReq_outputOctets]
      exact h.octets
    · have hlen := dl.odReq_odTxlen_le rw ch a len p
      have hkept := h.odTxlen
      rw [h.odLen] at hlen
      omega

/-! ### The invariant -/

/-- The places and lengths of the output octets belong together. -/
structure Wired (dl : Dl) : Prop where
  interleave : dl.messageHandler.interleave = .none
  phcmd : dl.pdHandler.phcmd = .inactive ∨ dl.pdHandler.phcmd = .single
  state : dl.pdHandler.state = .inactive0 ∨ dl.pdHandler.state = .pdsingle1
  pdoutBuffer : dl.pdHandler.pdoutBuffer = 2
  odoutBuffer : dl.odHandler.odoutBuffer = 2 + dl.pdHandler.pdTxlen
  pdTxlen : dl.pdHandler.pdTxlen ≤ 32
  pdRxlen : dl.pdHandler.pdRxlen ≤ 32
  odTxlen : dl.odHandler.odTxlen ≤ 32
  /-- The lengths for the next M-sequence. -/
  lengths : dl.messageHandler.pdTxlen ≤ 32 ∧ dl.messageHandler.pdRxlen ≤ 32 ∧
    dl.messageHandler.odLen ≤ 32

namespace Wired

variable {dl dl' : Dl}

/-- What the invariant looks at. -/
theorem congr (h : dl.Wired) (hpd : dl'.pdHandler = dl.pdHandler)
    (hod : dl'.odHandler = dl.odHandler)
    (hil : dl'.messageHandler.interleave = dl.messageHandler.interleave)
    (hlen : dl'.messageHandler.pdTxlen = dl.messageHandler.pdTxlen ∧
      dl'.messageHandler.pdRxlen = dl.messageHandler.pdRxlen ∧
      dl'.messageHandler.odLen = dl.messageHandler.odLen) : dl'.Wired := by
  obtain ⟨htx, hrx, hlen⟩ := hlen
  refine ⟨hil.trans h.interleave, ?_, ?_, ?_, ?_, ?_, ?_, ?_, htx ▸ hrx ▸ hlen ▸ h.lengths⟩
  · exact hpd ▸ h.phcmd
  · exact hpd ▸ h.state
  · exact hpd ▸ h.pdoutBuffer
  · exact hod ▸ hpd ▸ h.odoutBuffer
  · exact hpd ▸ h.pdTxlen
  · exact hpd ▸ h.pdRxlen
  · exact hod ▸ h.odTxlen

/-- A change of other records. -/
theorem beside (h : dl.Wired) (hpd : dl'.pdHandler = dl.pdHandler)
    (hod : dl'.odHandler = dl.odHandler) (hm : dl'.messageHandler = dl.messageHandler) :
    dl'.Wired := h.congr hpd hod (hm ▸ rfl) (hm ▸ ⟨rfl, rfl, rfl⟩)

theorem of_kept (h : dl.Wired) (hk : dl.OutputKept dl') : dl'.Wired := by
  obtain ⟨c, hc⟩ := hk.message
  obtain ⟨v, hv⟩ := hk.pd
  have hlen := hk.odTxlen
  have hod := h.odTxlen
  have hmax := h.lengths.2.2
  refine ⟨?_, ?_, ?_, ?_, ?_, ?_, ?_, by omega, ?_⟩
  · rw [hc]
    exact h.interleave
  · rw [hv]
    exact h.phcmd
  · rw [hv]
    exact h.state
  · rw [hv]
    exact h.pdoutBuffer
  · rw [hv, hk.odoutBuffer]
    exact h.odoutBuffer
  · rw [hv]
    exact h.pdTxlen
  · rw [hv]
    exact h.pdRxlen
  · rw [hc]
    exact h.lengths

theorem odHSm (h : dl.Wired) : dl.odHSm.Wired :=
  h.of_kept ((outputKept_closed dl).odHSm (.refl dl))

theorem odMaster (h : dl.Wired) : dl.odMaster.Wired :=
  h.of_kept ((outputKept_closed dl).odMaster (.refl dl))

theorem odDevice (h : dl.Wired) : dl.odDevice.Wired :=
  h.of_kept ((outputKept_closed dl).odDevice (.refl dl))

theorem vars (h : dl.Wired) (f : DlVars → DlVars) : (dl.modVars f).Wired := h.beside rfl rfl rfl

theorem objects (h : dl.Wired) (f : DlObjects → DlObjects) : (dl.modObjects f).Wired :=
  h.beside rfl rfl rfl

theorem mode (h : dl.Wired) (f : ModeHandler → ModeHandler) : (dl.modMode f).Wired :=
  h.beside rfl rfl rfl

theorem event (h : dl.Wired) (f : EventHandler → EventHandler) : (dl.modEvent f).Wired :=
  h.beside rfl rfl rfl

theorem emit (h : dl.Wired) (c : DlCall) : (dl.emit c).Wired := h.beside rfl rfl rfl

theorem toMessage (h : dl.Wired) (state : MhSt) : (dl.toMessage state).Wired :=
  h.congr rfl rfl rfl ⟨rfl, rfl, rfl⟩

theorem mhcmd (h : dl.Wired) (c : MHCmd) :
    (dl.modMessage ({ · with mhcmd := c })).Wired := h.congr rfl rfl rfl ⟨rfl, rfl, rfl⟩

theorem odTrigger (h : dl.Wired) (t : Trigger) : (dl.modOd ({ · with trigger := t })).Wired :=
  ⟨h.interleave, h.phcmd, h.state, h.pdoutBuffer, h.odoutBuffer, h.pdTxlen, h.pdRxlen, h.odTxlen,
    h.lengths⟩

theorem pdTrigger (h : dl.Wired) (t : Trigger) : (dl.modPd ({ · with trigger := t })).Wired :=
  ⟨h.interleave, h.phcmd, h.state, h.pdoutBuffer, h.odoutBuffer, h.pdTxlen, h.pdRxlen, h.odTxlen,
    h.lengths⟩

/-! ### The message handler -/

/-- `set_mseq_change` moves the on-request data behind the output octets. -/
theorem setMseqChange (h : dl.Wired) : dl.setMseqChange.Wired := by
  obtain ⟨htx, hrx, hlen⟩ := h.lengths
  have hil := h.interleave
  have hbuf := h.pdoutBuffer
  have hdef : dl.setMseqChange = ((dl.modPd ({ · with
      pdTxlen := dl.messageHandler.pdTxlen, pdRxlen := dl.messageHandler.pdRxlen })).modOd ({ · with
        odoutBuffer := dl.pdHandler.pdoutBuffer + dl.messageHandler.pdTxlen })).writeTx 0
        (List.replicate rxtxBufferSize 0) := by
    simp [Dl.setMseqChange, hil]
  rw [hdef]
  refine ⟨hil, h.phcmd, h.state, hbuf, ?_, htx, hrx, h.odTxlen, h.lengths⟩
  simp [hbuf]

theorem pdState (h : dl.Wired) {state : PdhSt} (hs : state = .inactive0 ∨ state = .pdsingle1) :
    (dl.modPd ({ · with state := state })).Wired :=
  ⟨h.interleave, h.phcmd, hs, h.pdoutBuffer, h.odoutBuffer, h.pdTxlen, h.pdRxlen, h.odTxlen,
    h.lengths⟩

theorem pdReq (h : dl.Wired) (pdinlength : ℕ) (pdout : Option OctetPtr) (addr len : ℕ) :
    (dl.pdReq pdinlength pdout addr len).2.Wired := by
  unfold Dl.pdReq
  split_ifs
  · exact h
  · exact h
  · cases pdout with
    | none => exact h
    | some _ => exact h.beside rfl rfl rfl

theorem pdHSm (h : dl.Wired) : dl.pdHSm.Wired := by
  unfold Dl.pdHSm
  rcases h.state with hs | hs
  · rw [hs]
    dsimp only
    unfold Dl.pdHSmInactive0
    rcases h.phcmd with hc | hc
    · rw [hc]
      dsimp only
      split_ifs
      · exact (h.pdTrigger .none).pdReq _ _ _ _
      · exact h
    · rw [hc]
      exact h.pdState (.inr rfl)
  · rw [hs]
    dsimp only
    unfold Dl.pdHSmPdSingle1
    split
    · exact (h.pdTrigger .none).pdReq _ _ _ _
    · exact (h.pdTrigger .none).beside rfl rfl rfl
    · split_ifs
      · exact h.pdState (.inl rfl)
      · exact h

theorem pdMaster (h : dl.Wired) : dl.pdMaster.Wired := (h.pdTrigger _).pdHSm

theorem pdDevice (h : dl.Wired) : dl.pdDevice.Wired := (h.pdTrigger _).pdHSm

theorem messageClosed : MessageClosed Wired where
  odHSm h := h.odHSm
  pdHSm h := h.pdHSm
  setMseqChange h := h.setMseqChange
  writeMasterCommand _ h := h.of_kept ((outputKept_closed _).writeMasterCommand (.refl _) _)
  message {dl} f hf h := by
    obtain ⟨state, rwcmd, retry, cks, heq⟩ := hf dl.messageHandler
    refine h.congr rfl rfl ?_ ?_
    · rw [modMessage_messageHandler, heq]
    · rw [modMessage_messageHandler, heq]
      exact ⟨rfl, rfl, rfl⟩
  interleave _ hpart h := absurd h.interleave hpart
  odTrigger trigger h := h.odTrigger trigger
  pdTrigger trigger h := h.pdTrigger trigger
  eventFlag _ h := h.event _
  mhinfo _ h := h.mode _
  vars f _ h := h.vars f
  objects f h := h.objects f
  emit _ h := h.emit _
  access _ _ h := h.beside rfl rfl rfl

/-- **The message handler.** -/
theorem messageHSm (h : dl.Wired) : dl.messageHSm.Wired := messageClosed.messageHSm h

/-- Without interleave both parts of a device message are taken. -/
theorem pdReceived_eq (h : dl.Wired) : dl.pdReceived = dl.pdDevice := by
  have hil := h.interleave
  have hil' := h.pdDevice.interleave
  simp [Dl.pdReceived, hil, hil']

theorem odReceived_eq (h : dl.Wired) : dl.odReceived = dl.odDevice := by
  have hil := h.interleave
  have hil' := h.odDevice.interleave
  simp [Dl.odReceived, hil, hil']

/-- The device's answer is taken apart. -/
theorem taken (h : dl.Wired) : ((dl.readCks.eventFlagInd dl.readCks.getCKSEvFlag).pdInStatusInd
    (dl.readCks.eventFlagInd dl.readCks.getCKSEvFlag).getCKSPDIn).Wired :=
  Wired.emit (Wired.event (messageClosed.readCks h) _) _

/-! ### The mode handler -/

theorem chConf (h : dl.Wired) (cmd : HandlerCmd) : (dl.chConf cmd).Wired :=
  h.of_kept ((outputKept_closed dl).chConf (.refl dl) cmd)

theorem phConf (h : dl.Wired) {cmd : PHCmd} (hcmd : cmd = .inactive ∨ cmd = .single) :
    (dl.phConf cmd).Wired := by
  have hil : (if cmd = .interleave then Interleave.pd else .none) = .none := by
    rcases hcmd with rfl | rfl <;> rfl
  unfold Dl.phConf
  rw [hil]
  refine Wired.pdHSm ⟨rfl, hcmd, h.state, h.pdoutBuffer, h.odoutBuffer, h.pdTxlen, h.pdRxlen,
    h.odTxlen, h.lengths⟩

theorem modeClosed : ModeClosed Wired where
  ohConf cmd h := h.of_kept ((outputKept_closed _).ohConf (.refl _) cmd)
  ihConf cmd h := h.of_kept ((outputKept_closed _).ihConf (.refl _) cmd)
  ehConf cmd h := h.of_kept ((outputKept_closed _).ehConf (.refl _) cmd)
  chConf cmd h := h.chConf cmd
  phConf hcmd h := h.phConf hcmd
  mhConf cmd h := (h.mhcmd cmd).messageHSm
  mode f h := h.mode f
  modeInd _ h := h.emit _

/-- **The mode handler.** -/
theorem modeHSm (h : dl.Wired) : dl.modeHSm.Wired := modeClosed.modeHSm h

/-! ### Inputs -/

theorem readWriteReq (h : dl.Wired) (address : ℕ) (value : Octet) (write : Bool) :
    (dl.readWriteReq address value write).2.Wired := by
  have hrefuse : ∀ errinfo, (dl.refuseAccess write errinfo).Wired := by
    intro errinfo
    unfold Dl.refuseAccess
    split_ifs
    · exact h.emit _
    · exact h.emit _
  unfold Dl.readWriteReq
  split_ifs
  · exact hrefuse _
  · exact hrefuse _
  · exact (h.vars _).emit _
  · exact ⟨h.interleave, h.phcmd, h.state, h.pdoutBuffer, h.odoutBuffer, h.pdTxlen, h.pdRxlen,
      show 1 ≤ 32 by decide, h.lengths⟩
  · exact ⟨h.interleave, h.phcmd, h.state, h.pdoutBuffer, h.odoutBuffer, h.pdTxlen, h.pdRxlen,
      show 0 ≤ 32 by decide, h.lengths⟩

theorem setModeReq (h : dl.Wired) (mode : DlMode) {valuelist : ModeVl} (hvl : valuelist.Regular) :
    (dl.setModeReq mode valuelist).Wired := by
  unfold Dl.setModeReq
  dsimp only
  split_ifs
  · exact ⟨h.interleave, h.phcmd, h.state, h.pdoutBuffer, h.odoutBuffer, h.pdTxlen, h.pdRxlen,
      h.odTxlen, hvl.pdoutputlength, hvl.pdinputlength, hvl.onreqdatalength⟩
  · exact h.beside rfl rfl rfl

theorem writeDevicemodeReq (h : dl.Wired) (devicemode : DlMode) :
    (dl.writeDevicemodeReq devicemode).2.Wired := by
  have hcmd : ∀ f, (dl.modCmd f).cmdHSm.Wired := fun f =>
    h.of_kept ((outputKept_closed dl).cmdHSm ((outputKept_closed dl).cmd f (.refl dl)))
  unfold Dl.writeDevicemodeReq
  dsimp only
  split_ifs <;> dsimp only
  · exact h.emit _
  · exact (hcmd _).emit _
  · exact (hcmd _).objects _
  · exact hcmd _

theorem pdOutputUpdateReq (h : dl.Wired) (outputdata : List Octet) :
    (dl.pdOutputUpdateReq outputdata).2.Wired := by
  unfold Dl.pdOutputUpdateReq
  dsimp only
  split_ifs
  · exact h
  · exact ⟨h.interleave, h.phcmd, h.state, h.pdoutBuffer, h.odoutBuffer, h.pdTxlen, h.pdRxlen,
      h.odTxlen, h.lengths⟩
  · exact ⟨h.interleave, h.phcmd, h.state, h.pdoutBuffer, h.odoutBuffer, h.pdTxlen, h.pdRxlen,
      h.odTxlen, h.lengths⟩

theorem rxrdy (h : dl.Wired) (octets : List Octet) : (dl.rxrdy octets).Wired := by
  unfold Dl.rxrdy
  dsimp only
  split_ifs
  · exact h
  · refine Wired.vars (Wired.messageHSm ?_) _
    exact h.beside rfl rfl rfl

theorem reset (dl : Dl) : dl.reset.Wired :=
  ⟨rfl, .inl rfl, .inl rfl, rfl, rfl, Nat.zero_le 32, Nat.zero_le 32, Nat.zero_le 32,
    Nat.zero_le 32, Nat.zero_le 32, Nat.zero_le 32⟩

theorem linkClosed : LinkClosed Wired where
  toModeClosed := modeClosed
  messageHSm h := h.messageHSm
  handleError h := handleError_of_vars (P := Wired) (fun f h => h.vars f) messageHSm h
  vars f _ h := h.vars f
  objects f h := h.objects f
  surroundings _ h := h.beside rfl rfl rfl
  modeIndBaud _ h := h.emit _
  inactive0 h := h.toMessage _
  awReply1 h := h.toMessage _
  reset _ := .reset _
  readWriteReq address value write h := h.readWriteReq address value write
  writeDevicemodeReq devicemode h := h.writeDevicemodeReq devicemode
  controlReq code h := h.of_kept ((outputKept_closed _).controlReq (.refl _) code)
  pdOutputUpdateReq data h := h.pdOutputUpdateReq data
  eventConf h := h.beside rfl rfl rfl
  isduTransportReq vl h := h.of_kept ((outputKept_closed _).isduTransportReq (.refl _) vl)
  readWriteParamReq address value write h :=
    h.of_kept ((outputKept_closed _).readWriteParamReq (.refl _) address value write)

/-- **The step lemma.** -/
theorem linkStep (h : dl.Wired) {i : LinkInput} (hi : i.Regular) : (dl.linkStep i).Wired := by
  refine linkClosed.linkStep h (fun octets _ => h.rxrdy octets) ?_
  rintro mode vl rfl
  exact h.setModeReq mode hi

end Wired

/-- **Every run.** -/
theorem wired_of_reaches {dl₀ dl : Dl} (h₀ : dl₀.Wired)
    (h : Runs.Reaches linkStep (fun _ i => i.Regular) dl₀ dl) : dl.Wired :=
  h.invariant Wired h₀ fun _ _ hd hi => hd.linkStep hi

/-! ### The next message -/

/-- Process data are exchanged, and the answer to a message is due. -/
structure Exchanging (dl : Dl) : Prop where
  message : dl.messageHandler.state = .response15 ∨ dl.messageHandler.state = .awReply16
  mhcmd : dl.messageHandler.mhcmd ≠ .startup ∧ dl.messageHandler.mhcmd ≠ .inactive
  pd : dl.pdHandler.state ≠ .inactive0

instance (dl : Dl) : Decidable dl.Exchanging :=
  decidable_of_iff (_ ∧ _ ∧ _) ⟨fun h => ⟨h.1, h.2.1, h.2.2⟩, fun h => ⟨h.1, h.2, h.3⟩⟩

/-- The output octets that the next message will carry. A message that writes a parameter repeats
those of the last message. -/
def nextOutput (dl : Dl) : List Octet :=
  if dl.messageHandler.rwcmd = .writeparam then dl.outputOctets
  else dl.pdHandler.pdoutdata.slice 0 dl.pdHandler.pdTxlen

/-- The output octets in the message that is sent last. -/
def sentOutput (dl : Dl) : Option (List Octet) :=
  match dl.out.getLast? with
  | some (.plMessageDownloadReq _ _ data) => some ((data.drop 2).take dl.pdHandler.pdTxlen)
  | _ => none

theorem sentOutput_congr {dl dl' : Dl} (hout : dl'.out = dl.out)
    (hlen : dl'.pdHandler.pdTxlen = dl.pdHandler.pdTxlen) : dl'.sentOutput = dl.sentOutput := by
  rw [sentOutput, sentOutput, hout, hlen]

/-- A message contains the octets between its head and the on-request data. -/
theorem sentOutput_messageDownload {dl : Dl} (h : dl.Wired) :
    dl.messageDownload.sentOutput = some dl.outputOctets := by
  have hod := h.odTxlen
  have hpd := h.pdTxlen
  have hlen : dl.pdMessageLengths.2 = dl.odHandler.odTxlen + dl.pdHandler.pdTxlen + 2 :=
    narrow8_of_lt (by omega)
  have hlast : dl.messageDownload.out.getLast? = some (.plMessageDownloadReq dl.pdMessageLengths.1
      dl.pdMessageLengths.2 (dl.txbuffer.slice 0 dl.pdMessageLengths.2)) := List.getLast?_concat
  rw [sentOutput, hlast]
  simp only [outputOctets, h.odoutBuffer, Nat.add_sub_cancel_left, Option.some.injEq]
  change ((dl.txbuffer.slice 0 dl.pdMessageLengths.2).drop 2).take dl.pdHandler.pdTxlen = _
  rw [Buffer.slice, List.drop_take, List.take_take, hlen, Nat.min_eq_left (by omega)]
  rfl

/-- The process data handler prepares a message. -/
theorem pdMaster_outputOctets {dl : Dl} (h : dl.Wired) (hs : dl.pdHandler.state = .pdsingle1) :
    dl.pdMaster.outputOctets = dl.pdHandler.pdoutdata.slice 0 dl.pdHandler.pdTxlen := by
  have hpd := h.pdTxlen
  have hrx := h.pdRxlen
  have hlen : (dl.pdHandler.pdoutdata.slice 0 dl.pdHandler.pdTxlen).length = dl.pdHandler.pdTxlen :=
    Buffer.length_slice _ (show 0 + _ ≤ 32 by omega)
  have htx : dl.pdMaster.txbuffer =
      dl.txbuffer.write 2 (dl.pdHandler.pdoutdata.slice 0 dl.pdHandler.pdTxlen) := by
    simp [pdMaster, pdHSm, hs, pdHSmPdSingle1, pdReq, Nat.not_lt.mpr hpd, Nat.not_lt.mpr hrx,
      h.pdoutBuffer, pdoutPtr, Buffer.slice]
  have hbuf : dl.pdMaster.odHandler = dl.odHandler := by
    simp [pdMaster, pdHSm, hs, pdHSmPdSingle1, pdReq, Nat.not_lt.mpr hpd, Nat.not_lt.mpr hrx]
  rw [outputOctets, htx, hbuf, h.odoutBuffer, Nat.add_sub_cancel_left]
  have hself := Buffer.slice_write_self dl.txbuffer 2
    (dl.pdHandler.pdoutdata.slice 0 dl.pdHandler.pdTxlen)
    (by rw [hlen]; exact show 2 + dl.pdHandler.pdTxlen ≤ 64 by omega)
  rw [hlen] at hself
  exact hself

/-- The process data handler takes a device message and leaves the output alone. -/
theorem pdDevice_pdHandler {dl : Dl} (hs : dl.pdHandler.state = .pdsingle1) :
    dl.pdDevice.pdHandler = dl.pdHandler.withTrigger .none := by
  simp [pdDevice, pdHSm, hs, pdHSmPdSingle1, PdHandler.withTrigger]

/-- The message that follows a device message. -/
theorem sentOutput_awaitReply16Received {dl : Dl} (h : dl.Wired)
    (hs : dl.pdHandler.state = .pdsingle1) :
    dl.awaitReply16Received.sentOutput =
      some (dl.pdHandler.pdoutdata.slice 0 dl.pdHandler.pdTxlen) := by
  have ht := h.taken
  obtain ⟨t, htaken⟩ : ∃ t, t = (dl.readCks.eventFlagInd dl.readCks.getCKSEvFlag).pdInStatusInd
      (dl.readCks.eventFlagInd dl.readCks.getCKSEvFlag).getCKSPDIn := ⟨_, rfl⟩
  have hpd : t.pdHandler = dl.pdHandler := by rw [htaken]; rfl
  have hdev : t.pdDevice.pdHandler = dl.pdHandler.withTrigger .none := by
    rw [pdDevice_pdHandler (hpd ▸ hs), hpd]
  rw [← htaken] at ht
  have hprev := ht.pdDevice.odDevice
  have hmsg := hprev.pdMaster
  -- the handler of the on-request data is called twice, before and after that of the output
  have hkept := (outputKept_closed t.pdDevice).odDevice (.refl _)
  obtain ⟨v, hv⟩ := hkept.pd
  rw [hdev] at hv
  have hstate : t.pdDevice.odDevice.pdHandler.state = .pdsingle1 := by rw [hv]; exact hs
  have hkept' := (outputKept_closed t.pdDevice.odDevice.pdMaster).odMaster (.refl _)
  have hlast := sentOutput_messageDownload hmsg.odMaster
  have hrcv : dl.awaitReply16Received =
      ((t.pdDevice.odDevice.pdMaster.odMaster.messageDownload).toMessage .awReply16).modVars
        ({ · with dataready := false }) := by
    unfold awaitReply16Received
    dsimp only
    rw [← htaken, ht.pdReceived_eq, ht.pdDevice.odReceived_eq]
  rw [hrcv]
  refine (sentOutput_congr rfl rfl).trans (hlast.trans ?_)
  rw [hkept'.octets, pdMaster_outputOctets hprev hstate, hv]
  rfl

/-- The message that follows, in the state that waits for the answer. -/
theorem sentOutput_awaitReply16 {dl : Dl} (h : dl.Wired)
    (hmhcmd : dl.messageHandler.mhcmd ≠ .startup ∧ dl.messageHandler.mhcmd ≠ .inactive)
    (hs : dl.pdHandler.state = .pdsingle1) (hready : dl.vars.dataready = true) :
    dl.messageHSmAwaitReply16.sentOutput = some dl.nextOutput := by
  unfold messageHSmAwaitReply16 nextOutput
  rw [if_neg hmhcmd.1, if_neg hmhcmd.2]
  by_cases hwrite : dl.messageHandler.rwcmd = .writeparam
  · have hkept := (outputKept_closed dl).odMaster (.refl dl)
    have hfresh : dl.odMaster.freshMessage.Wired :=
      Wired.messageClosed.freshMessage h.odMaster
    rw [if_pos hwrite, if_pos hwrite]
    refine (sentOutput_congr rfl rfl).trans ((sentOutput_messageDownload hfresh).trans ?_)
    exact congrArg some hkept.octets
  · rw [if_neg hwrite, if_neg hwrite, if_pos hready]
    exact sentOutput_awaitReply16Received h hs

/-- **The next message** carries the octets of `nextOutput`, whatever the device answers. -/
theorem sentOutput_rxrdy {dl : Dl} (h : dl.Wired) (hx : dl.Exchanging) {octets : List Octet}
    (ho : octets ≠ []) : (dl.rxrdy octets).sentOutput = some dl.nextOutput := by
  have hs : dl.pdHandler.state = .pdsingle1 := h.state.resolve_left hx.pd
  obtain ⟨hmhtx, hmhrx, hodlen⟩ := h.lengths
  have hlen : narrow8 (dl.messageHandler.odLen + dl.messageHandler.pdRxlen + 1) ≠ 0 := by
    rw [narrow8_of_lt (by omega)]
    omega
  have hempty : (octets.take
      (narrow8 (dl.messageHandler.odLen + dl.messageHandler.pdRxlen + 1))).isEmpty = false := by
    simp [ho, hlen]
  unfold rxrdy
  simp only [hempty, Bool.false_eq_true, if_false]
  refine (sentOutput_congr rfl rfl).trans ?_
  unfold messageHSm
  rcases hx.message with hm | hm
  · simp only [writeRx_messageHandler, access_messageHandler, modVars_messageHandler, hm]
    refine sentOutput_awaitReply16 (Wired.toMessage ?_ _) hx.mhcmd hs rfl
    exact h.beside rfl rfl rfl
  · simp only [writeRx_messageHandler, access_messageHandler, modVars_messageHandler, hm]
    refine sentOutput_awaitReply16 ?_ hx.mhcmd hs rfl
    exact h.beside rfl rfl rfl

/-! ### Updating the output -/

/-- The front of `pdoutdata` after an update. -/
theorem pdOutputUpdateReq_of_active {dl : Dl} (h : dl.Wired) (hs : dl.pdHandler.state ≠ .inactive0)
    {outputdata : List Octet} (hlen : outputdata.length = pdMaxSize) :
    (dl.pdOutputUpdateReq outputdata).1 = .none ∧
      ∃ data fs, (dl.pdOutputUpdateReq outputdata).2 =
          { dl with pdHandler := dl.pdHandler.withPdoutdata data, faults := fs } ∧
        data.slice 0 dl.pdHandler.pdTxlen = outputdata.take dl.pdHandler.pdTxlen := by
  have hle : dl.pdHandler.pdTxlen ≤ 32 := h.pdTxlen
  have htake : (outputdata.take dl.pdHandler.pdTxlen).length = dl.pdHandler.pdTxlen := by
    rw [List.length_take, hlen]
    exact Nat.min_eq_left hle
  have hfront : (dl.pdHandler.pdoutdata.write 0 (outputdata.take dl.pdHandler.pdTxlen)).slice 0
      dl.pdHandler.pdTxlen = outputdata.take dl.pdHandler.pdTxlen := by
    have hself := dl.pdHandler.pdoutdata.slice_zero_write
      (show (outputdata.take dl.pdHandler.pdTxlen).length ≤ 32 by omega)
    rwa [htake] at hself
  unfold pdOutputUpdateReq
  rw [if_neg hs]
  dsimp only
  split_ifs
  · refine ⟨rfl, _, _, rfl, ?_⟩
    rw [Buffer.slice_write_of_le _ _ (Nat.le_refl _)]
    exact hfront
  · exact ⟨rfl, _, _, rfl, hfront⟩

theorem cmdHSm_messageHandler (dl : Dl) : dl.cmdHSm.messageHandler = dl.messageHandler := by
  unfold cmdHSm
  split
  · split_ifs
    · rfl
    · rfl
  · unfold cmdHSmIdle1
    split_ifs
    · rfl
    · split
      · rfl
      · rfl
      · rfl
      · rfl
  · simp

theorem controlReq_pdoutvalid (dl : Dl) : (dl.controlReq .pdoutvalid).1 = .none ∧
    (dl.controlReq .pdoutvalid).2.messageHandler = dl.messageHandler :=
  ⟨rfl, cmdHSm_messageHandler _⟩

theorem Exchanging.of_kept {dl dl' : Dl} (hx : dl.Exchanging)
    (hm : dl'.messageHandler = dl.messageHandler) (hk : dl.OutputKept dl') : dl'.Exchanging := by
  obtain ⟨v, hv⟩ := hk.pd
  refine ⟨hm ▸ hx.message, hm ▸ hx.mhcmd, ?_⟩
  rw [hv]
  exact hx.pd

end Dl

end IolHat
