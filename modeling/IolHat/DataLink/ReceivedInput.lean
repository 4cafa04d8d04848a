import IolHat.DataLink.ThreadFootprint

/-!
# Where received process data lie

`DL_PDInputTransport_ind` hands a pointer to the application layer. In the interleaved exchange it
points to `pdindata`, otherwise into the receive buffer.

The interleaved exchange is never entered (`SingleOnly`). Hence every pointer that an input hands
over points into the receive buffer, as the reply of that input has left it (`announces_linkStep`).
-/

namespace IolHat

/-- Process data that are handed over lie in the receive buffer, with the contents `rx`. -/
def DlCall.ReadsFrom (rx : Octets.Buffer Octet rxtxBufferSize) : DlCall → Prop
  | .pdInputTransportInd pdinData data =>
    ∃ offset length, pdinData = .rxbuffer offset length ∧ data = rx.slice offset length
  | _ => True

theorem DlCall.readsFrom_of_not_isInput {c : DlCall} (hc : ¬ c.IsInput)
    (rx : Octets.Buffer Octet rxtxBufferSize) : c.ReadsFrom rx := by
  cases c <;> first | trivial | exact absurd trivial hc

namespace Dl

/-- The exchange is not interleaved, and none is configured. -/
structure SingleOnly (dl : Dl) : Prop where
  interleave : dl.messageHandler.interleave = .none
  phcmd : dl.pdHandler.phcmd = .inactive ∨ dl.pdHandler.phcmd = .single
  state : dl.pdHandler.state = .inactive0 ∨ dl.pdHandler.state = .pdsingle1

/-- What decides on the place of received process data, and the receive buffer. -/
def inputFront (dl : Dl) : Interleave × PHCmd × PdhSt × Octets.Buffer Octet rxtxBufferSize :=
  (dl.messageHandler.interleave, dl.pdHandler.phcmd, dl.pdHandler.state, dl.rxbuffer)

variable {dl₀ dl dl' : Dl}

theorem SingleOnly.of_front (h : dl.SingleOnly) (hfront : dl'.inputFront = dl.inputFront) :
    dl'.SingleOnly := by
  obtain ⟨hpart, hcmd, hstate, -⟩ : _ ∧ _ ∧ _ ∧ _ := by
    simpa only [inputFront, Prod.mk.injEq] using hfront
  refine ⟨hpart.trans h.interleave, ?_, ?_⟩
  · rw [hcmd]
    exact h.phcmd
  · rw [hstate]
    exact h.state

/-- Process data have been handed over in the receive buffer only, which has not changed. -/
structure Announces (dl₀ dl : Dl) : Prop where
  single : dl.SingleOnly
  rxbuffer : dl.rxbuffer = dl₀.rxbuffer
  calls : ∃ cs, dl.out = dl₀.out ++ cs ∧ ∀ c ∈ cs, c.ReadsFrom dl₀.rxbuffer

namespace Announces

theorem refl (h : dl.SingleOnly) : dl.Announces dl :=
  ⟨h, rfl, [], (List.append_nil _).symm, fun _ hc => absurd hc List.not_mem_nil⟩

/-- A change of other fields. -/
theorem of_front (h : dl₀.Announces dl) (hfront : dl'.inputFront = dl.inputFront)
    (hout : dl'.out = dl.out) : dl₀.Announces dl' := by
  have hrx : dl'.rxbuffer = dl.rxbuffer := congrArg (·.2.2.2) hfront
  exact ⟨h.single.of_front hfront, hrx.trans h.rxbuffer, hout ▸ h.calls⟩

theorem emit (h : dl₀.Announces dl) {c : DlCall} (hc : c.ReadsFrom dl₀.rxbuffer) :
    dl₀.Announces (dl.emit c) := by
  obtain ⟨cs, hout, hcs⟩ := h.calls
  refine ⟨h.single.of_front rfl, h.rxbuffer, cs ++ [c], ?_, fun d hd => ?_⟩
  · rw [emit_out, hout, List.append_assoc]
  · obtain hd | hd := List.mem_append.mp hd
    · exact hcs d hd
    · rwa [List.mem_singleton.mp hd]

/-- A pointer into the receive buffer is handed over, with what it points to. -/
theorem input (h : dl₀.Announces dl) (offset length : ℕ) :
    dl₀.Announces (dl.emit (.pdInputTransportInd (.rxbuffer offset length)
      (dl.rxbuffer.slice offset length))) := by
  refine h.emit (c := .pdInputTransportInd _ _) ?_
  rw [h.rxbuffer]
  exact ⟨offset, length, rfl, rfl⟩

theorem onRequestClosed (dl₀ : Dl) : OnRequestClosed dl₀.Announces where
  isdu _ h := h.of_front rfl rfl
  cmd _ h := h.of_front rfl rfl
  event _ h := h.of_front rfl rfl
  objects _ h := h.of_front rfl rfl
  od _ _ h := h.of_front rfl rfl
  rwcmd _ h := h.of_front rfl rfl
  pdValid _ h := h.of_front rfl rfl
  emit hc h := h.emit (DlCall.readsFrom_of_not_isInput hc _)
  access _ _ h := h.of_front rfl rfl
  odReq {dl} rw ch a len p h := by
    refine h.of_front ?_ (odReq_out ..)
    rw [inputFront, odReq_messageHandler, odReq_pdHandler, odReq_rxbuffer]
    rfl

/-! ### The process data handler and the message handler -/

theorem pdState (h : dl₀.Announces dl) {state : PdhSt}
    (hstate : state = .inactive0 ∨ state = .pdsingle1) :
    dl₀.Announces (dl.modPd ({ · with state := state })) :=
  ⟨⟨h.single.interleave, h.single.phcmd, hstate⟩, h.rxbuffer, h.calls⟩

theorem pdReq (h : dl₀.Announces dl) (pdinlength : ℕ) (pdout : Option OctetPtr) (addr len : ℕ) :
    dl₀.Announces (dl.pdReq pdinlength pdout addr len).2 := by
  obtain ⟨tx, fs, hreq⟩ := dl.pdReq_frame pdinlength pdout addr len
  rw [hreq]
  exact h.of_front rfl rfl

/-- The PD handler hands over a pointer into the receive buffer. -/
theorem pdHSm (h : dl₀.Announces dl) : dl₀.Announces dl.pdHSm := by
  have htrigger : dl₀.Announces (dl.modPd ({ · with trigger := .none })) := h.of_front rfl rfl
  unfold Dl.pdHSm
  obtain hstate | hstate := h.single.state
  · rw [hstate]
    dsimp only
    unfold Dl.pdHSmInactive0
    obtain hcmd | hcmd := h.single.phcmd
    · rw [hcmd]
      dsimp only
      split_ifs
      · exact htrigger.pdReq _ _ _ _
      · exact h
    -- `PHCMD_SINGLE` leads to the state of the single exchange
    · rw [hcmd]
      exact h.pdState (.inr rfl)
  · rw [hstate]
    dsimp only
    unfold Dl.pdHSmPdSingle1
    split
    · exact htrigger.pdReq _ _ _ _
    · have haccess : ∀ inside, dl₀.Announces
          ((dl.modPd ({ · with trigger := .none })).access .rxbuffer inside) :=
        fun _ => htrigger.of_front rfl rfl
      exact (haccess _).input _ _
    · split_ifs
      · exact h.pdState (.inl rfl)
      · exact h

theorem setMseqChange (h : dl₀.Announces dl) : dl₀.Announces dl.setMseqChange := by
  have hnone : ¬ dl.messageHandler.interleave ≠ .none := not_not.mpr h.single.interleave
  unfold Dl.setMseqChange
  dsimp only
  rw [if_neg hnone, if_neg fun hpart => hnone hpart.1]
  exact h.of_front rfl rfl

theorem messageClosed (dl₀ : Dl) : MessageClosed dl₀.Announces where
  odHSm h := (onRequestClosed dl₀).odHSm h
  pdHSm h := h.pdHSm
  setMseqChange h := h.setMseqChange
  writeMasterCommand errorinfo h := (onRequestClosed dl₀).writeMasterCommand h errorinfo
  message {dl} f hf h := by
    obtain ⟨state, rwcmd, retry, cks, heq⟩ := hf dl.messageHandler
    refine h.of_front ?_ rfl
    rw [inputFront, modMessage_messageHandler, heq]
    rfl
  -- the parts alternate only once one of them is under way
  interleave _ hpart h := absurd h.single.interleave hpart
  odTrigger _ h := h.of_front rfl rfl
  pdTrigger _ h := h.of_front rfl rfl
  eventFlag _ h := h.of_front rfl rfl
  mhinfo _ h := h.of_front rfl rfl
  vars _ _ h := h.of_front rfl rfl
  objects _ h := h.of_front rfl rfl
  emit hc h := h.emit (DlCall.readsFrom_of_not_isInput hc _)
  access _ _ h := h.of_front rfl rfl

theorem messageHSm (h : dl₀.Announces dl) : dl₀.Announces dl.messageHSm :=
  (messageClosed dl₀).messageHSm h

/-! ### The services and the thread -/

theorem phConf (h : dl₀.Announces dl) {cmd : PHCmd} (hcmd : cmd = .inactive ∨ cmd = .single) :
    dl₀.Announces (dl.phConf cmd) := by
  have hpart : (if cmd = .interleave then Interleave.pd else .none) = .none := by
    obtain rfl | rfl := hcmd <;> rfl
  unfold Dl.phConf
  rw [hpart]
  refine pdHSm ⟨⟨rfl, hcmd, h.single.state⟩, h.rxbuffer, h.calls⟩

theorem readWriteReq (h : dl₀.Announces dl) (address : ℕ) (value : Octet) (write : Bool) :
    dl₀.Announces (dl.readWriteReq address value write).2 := by
  have hrefuse : ∀ errinfo, dl₀.Announces (dl.refuseAccess write errinfo) := by
    intro errinfo
    unfold Dl.refuseAccess
    split_ifs
    · exact h.emit trivial
    · exact h.emit trivial
  unfold Dl.readWriteReq
  dsimp only
  split_ifs <;> dsimp only
  · exact hrefuse _
  · exact hrefuse _
  · have hread : dl₀.Announces (dl.modVars ({ · with firstReadMinCycl := false })) :=
      h.of_front rfl rfl
    exact hread.emit trivial
  · exact h.of_front rfl rfl
  · exact h.of_front rfl rfl

theorem setModeReq (h : dl₀.Announces dl) (mode : DlMode) (valuelist : ModeVl) :
    dl₀.Announces (dl.setModeReq mode valuelist) := by
  unfold Dl.setModeReq
  dsimp only
  split_ifs
  · exact h.of_front rfl rfl
  · exact h.of_front rfl rfl

theorem writeDevicemodeReq (h : dl₀.Announces dl) (devicemode : DlMode) :
    dl₀.Announces (dl.writeDevicemodeReq devicemode).2 := by
  have hcmd : ∀ f, dl₀.Announces (dl.modCmd f).cmdHSm :=
    fun f => (onRequestClosed dl₀).cmdHSm (h.of_front rfl rfl)
  unfold Dl.writeDevicemodeReq
  dsimp only
  split_ifs <;> dsimp only
  · exact h.emit trivial
  · exact (hcmd _).emit trivial
  · exact (hcmd _).of_front rfl rfl
  · exact hcmd _

theorem pdOutputUpdateReq (h : dl₀.Announces dl) (outputdata : List Octet) :
    dl₀.Announces (dl.pdOutputUpdateReq outputdata).2 := by
  unfold Dl.pdOutputUpdateReq
  dsimp only
  split_ifs
  · exact h
  · exact h.of_front rfl rfl
  · exact h.of_front rfl rfl

theorem linkClosed (dl₀ : Dl) : LinkClosed dl₀.Announces where
  ohConf cmd h := (onRequestClosed dl₀).ohConf h cmd
  ihConf cmd h := (onRequestClosed dl₀).ihConf h cmd
  ehConf cmd h := (onRequestClosed dl₀).ehConf h cmd
  chConf cmd h := (onRequestClosed dl₀).chConf h cmd
  phConf hcmd h := h.phConf hcmd
  mhConf _ h := messageHSm (h.of_front rfl rfl)
  mode _ h := h.of_front rfl rfl
  modeInd _ h := h.emit trivial
  messageHSm h := h.messageHSm
  handleError h :=
    handleError_of_vars (P := dl₀.Announces) (fun _ h => h.of_front rfl rfl) messageHSm h
  vars _ _ h := h.of_front rfl rfl
  objects _ h := h.of_front rfl rfl
  surroundings _ h := h.of_front rfl rfl
  modeIndBaud _ h := h.emit trivial
  inactive0 h := h.of_front rfl rfl
  awReply1 h := h.of_front rfl rfl
  reset h := ⟨⟨rfl, .inl rfl, .inl rfl⟩, h.rxbuffer, h.calls⟩
  readWriteReq address value write h := h.readWriteReq address value write
  writeDevicemodeReq devicemode h := h.writeDevicemodeReq devicemode
  controlReq code h := (onRequestClosed dl₀).controlReq h code
  pdOutputUpdateReq data h := h.pdOutputUpdateReq data
  eventConf h := h.of_front rfl rfl
  isduTransportReq vl h := (onRequestClosed dl₀).isduTransportReq h vl
  readWriteParamReq address value write h :=
    (onRequestClosed dl₀).readWriteParamReq h address value write

end Announces

/-- The octets of a reply have been stored, when there are any. -/
def afterReply (dl : Dl) (i : LinkInput) : Dl := dl.writeRx (dl.replyOf i)

theorem afterReply_of_nil {i : LinkInput} (h : dl.replyOf i = []) : dl.afterReply i = dl := by
  rw [afterReply, h, writeRx, Octets.Buffer.write_nil]

/-- **Every input** hands over pointers into the receive buffer only, after it has stored the octets
of its reply there. -/
theorem announces_linkStep (h : dl.SingleOnly) (i : LinkInput) :
    (dl.afterReply i).Announces (dl.linkStep i) := by
  by_cases hreply : ∃ octets, i = .dl (.rxrdy octets)
  · obtain ⟨octets, rfl⟩ := hreply
    change Announces _ (dl.rxrdy octets)
    rw [rxrdy_eq]
    split_ifs with hempty
    · rw [afterReply_of_nil (List.isEmpty_iff.mp hempty)]
      exact Announces.refl h
    · have hafter : (dl.afterReply (.dl (.rxrdy octets))).SingleOnly :=
        ⟨h.interleave, h.phcmd, h.state⟩
      have hstored : (dl.afterReply (.dl (.rxrdy octets))).Announces
          (dl.takeReply (dl.replyOf (.dl (.rxrdy octets)))) :=
        Announces.of_front (Announces.refl hafter) rfl rfl
      exact hstored.messageHSm.of_front rfl rfl
  -- nothing else stores octets of the device
  · have hnone : dl.replyOf i = [] := by
      unfold replyOf
      split
      · exact absurd ⟨_, rfl⟩ hreply
      · rfl
    rw [afterReply_of_nil hnone]
    exact (Announces.linkClosed dl).linkStep (Announces.refl h)
      (fun octets hi => absurd ⟨octets, hi⟩ hreply)
      fun mode vl _ => (Announces.refl h).setModeReq mode vl

end Dl

end IolHat
