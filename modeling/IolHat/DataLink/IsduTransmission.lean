import IolHat.DataLink.MessageFootprint
import IolHat.DataLink.IsduEncoding
import IolHat.DataLink.IsduReception

/-!
# Transmission of a request

One call of the OD handler while a request is being sent. In the state ISDU_1, and with no master
command to be sent, a master message carries the next segment (`isduHSm_masterMessage`) and a
device message may be the answer to the last one (`isduHSm_deviceMessage`). Everywhere else the
call goes to the command handler or the event handler, which leave the request alone
(`RequestKept`). Their message is no ISDU write, unless they prepare none and the message before
is still in `txbuffer` (`odHSm_of_diverted`).
-/

namespace IolHat

open Octets

namespace Dl

/-! ### What the other handlers leave alone -/

/-- Nothing that the transmission of a request works with has changed. -/
structure RequestKept (dl₀ dl : Dl) : Prop where
  isdu : dl.isduHandler = dl₀.isduHandler
  message : dl.messageHandler = dl₀.messageHandler
  mode : dl.modeHandler = dl₀.modeHandler
  od : dl.odHandler.state = dl₀.odHandler.state ∧ dl.odHandler.ohcmd = dl₀.odHandler.ohcmd ∧
    dl.odHandler.odoutBuffer = dl₀.odHandler.odoutBuffer

theorem RequestKept.refl (dl : Dl) : dl.RequestKept dl := ⟨rfl, rfl, rfl, rfl, rfl, rfl⟩

theorem RequestKept.odReq {dl₀ dl : Dl} (h : dl₀.RequestKept dl) (rw' : RwDirection)
    (ch : ComChannel) (a len : ℕ) (p : OctetPtr) : dl₀.RequestKept (dl.odReq rw' ch a len p).2 := by
  obtain ⟨_, _, _, _, hreq⟩ := dl.odReq_frame rw' ch a len p
  rw [hreq]
  exact ⟨h.isdu, h.message, h.mode, h.od⟩

/-- **The command and the event handler** leave a request alone. -/
theorem requestKept_closed (dl₀ : Dl) : SideClosed dl₀.RequestKept where
  cmd _ h := ⟨h.isdu, h.message, h.mode, h.od⟩
  event _ h := ⟨h.isdu, h.message, h.mode, h.od⟩
  pdValid _ h := ⟨h.isdu, h.message, h.mode, h.od⟩
  emit _ h := ⟨h.isdu, h.message, h.mode, h.od⟩
  access _ _ h := ⟨h.isdu, h.message, h.mode, h.od⟩
  odReq rw' ch a len p h := h.odReq rw' ch a len p

theorem RequestKept.modPd {dl₀ dl : Dl} (h : dl₀.RequestKept dl) (f : PdHandler → PdHandler) :
    dl₀.RequestKept (dl.modPd f) := ⟨h.isdu, h.message, h.mode, h.od⟩

/-- **The PD handler** leaves a request alone. -/
theorem RequestKept.pdHSm {dl₀ dl : Dl} (h : dl₀.RequestKept dl) : dl₀.RequestKept dl.pdHSm := by
  have hclosed : PdClosed dl₀.RequestKept :=
    ⟨fun f h => h.modPd f, fun h => ⟨h.isdu, h.message, h.mode, h.od⟩,
      fun _ _ h => ⟨h.isdu, h.message, h.mode, h.od⟩,
      fun _ _ h => ⟨h.isdu, h.message, h.mode, h.od⟩,
      fun _ _ h => ⟨h.isdu, h.message, h.mode, h.od⟩, fun _ _ _ _ _ h => h.odReq ..⟩
  exact hclosed.pdHSm h

/-! ### The segment in a message -/

/-- The message in `txbuffer` is an ISDU write. -/
def WritesIsdu (dl : Dl) : Prop :=
  dl.txbuffer.get 0 &&& 0xE0 = RwDirection.write.code ||| ComChannel.isdu.code

instance (dl : Dl) : Decidable dl.WritesIsdu := by unfold WritesIsdu; infer_instance

section

variable (dl : Dl)

@[simp] theorem writesIsdu_modCmd (f : CmdHandler → CmdHandler) :
    (dl.modCmd f).WritesIsdu ↔ dl.WritesIsdu := Iff.rfl
@[simp] theorem writesIsdu_modEvent (f : EventHandler → EventHandler) :
    (dl.modEvent f).WritesIsdu ↔ dl.WritesIsdu := Iff.rfl
@[simp] theorem writesIsdu_modOd (f : OdHandler → OdHandler) :
    (dl.modOd f).WritesIsdu ↔ dl.WritesIsdu := Iff.rfl

end

/-- The flow control and the octets of an ISDU write message. -/
def writeSegment (dl : Dl) : Option (ℕ × List Octet) :=
  if dl.WritesIsdu then
    some ((dl.txbuffer.get 0 &&& 0x1F).toNat,
      dl.txbuffer.slice dl.odHandler.odoutBuffer dl.messageHandler.odLen)
  else none

/-- The place of the on-request data in the message. -/
structure OdRoom (dl : Dl) (od : ℕ) : Prop where
  odLen : dl.messageHandler.odLen = od
  front : 2 ≤ dl.odHandler.odoutBuffer
  back : dl.odHandler.odoutBuffer + od ≤ rxtxBufferSize

/-- The head octet of an ISDU write names the channel and the flow control. -/
private theorem isduHead {a : ℕ} (ha : a < 32) :
    (RwDirection.write.code ||| ComChannel.isdu.code ||| UInt8.ofNat a) &&& 0xE0 =
        RwDirection.write.code ||| ComChannel.isdu.code ∧
      ((RwDirection.write.code ||| ComChannel.isdu.code ||| UInt8.ofNat a) &&& 0x1F).toNat = a := by
  have hall : ∀ n : Fin 32,
      (RwDirection.write.code ||| ComChannel.isdu.code ||| UInt8.ofNat n) &&& 0xE0 =
        RwDirection.write.code ||| ComChannel.isdu.code ∧
      ((RwDirection.write.code ||| ComChannel.isdu.code ||| UInt8.ofNat n) &&& 0x1F).toNat = n := by
    decide
  exact hall ⟨a, ha⟩

/-- A message on another channel, or a reading one, is no ISDU write. -/
private theorem not_writesIsdu_of_odReq {dl : Dl} (hroom : 2 ≤ dl.odHandler.odoutBuffer)
    {rw' : RwDirection} {ch : ComChannel} (hch : rw' = .read ∨ ch = .page ∨ ch = .diagnosis)
    {a len : ℕ} (ha : a ≤ 31) (hlen : len ≤ 32) (p : OctetPtr) :
    ¬ (dl.odReq rw' ch a len p).2.WritesIsdu := by
  have hall : ∀ n : Fin 32,
      (rw'.code ||| ch.code ||| UInt8.ofNat n) &&& 0xE0 ≠
        RwDirection.write.code ||| ComChannel.isdu.code := by
    rcases hch with rfl | rfl | rfl
    · cases ch <;> decide
    · cases rw' <;> decide
    · cases rw' <;> decide
  rw [WritesIsdu, odReq_head hroom rw' ch ha hlen p]
  exact hall ⟨a, Nat.lt_succ_of_le ha⟩

/-- **One segment.** An ISDU write carries the octets the pointer reaches, as many as fit. -/
theorem odReq_writeSegment {dl : Dl} {od : ℕ} (hod : od ≤ 32) (hroom : dl.OdRoom od) {a : ℕ}
    (ha : a < 32) (p : OctetPtr) :
    ∃ octets, (dl.odReq .write .isdu a od p).2.writeSegment = some (a, octets) ∧
      octets.length = od ∧ octets.take p.reach.length = p.reach.take od := by
  have hhead := odReq_head hroom.front .write .isdu (Nat.le_of_lt_succ ha) hod p
  obtain ⟨hchannel, hflow⟩ := isduHead ha
  have hwrites : (dl.odReq .write .isdu a od p).2.WritesIsdu := by
    rw [WritesIsdu, hhead]
    exact hchannel
  obtain ⟨b, hb⟩ : ∃ b : Buffer Octet rxtxBufferSize, (dl.odReq .write .isdu a od p).2.txbuffer =
      b.write dl.odHandler.odoutBuffer (p.reach.take od) := by
    unfold Dl.odReq
    rw [if_neg (Nat.not_lt.mpr hod), if_neg (Nat.not_lt.mpr (Nat.le_of_lt_succ ha))]
    simp only [hroom.odLen, Nat.sub_self, List.replicate_zero, List.append_nil]
    exact ⟨_, rfl⟩
  have hout : (dl.odReq .write .isdu a od p).2.odHandler.odoutBuffer =
      dl.odHandler.odoutBuffer := by
    obtain ⟨_, _, _, _, hreq⟩ := dl.odReq_frame .write .isdu a od p
    rw [hreq]
  have hback : dl.odHandler.odoutBuffer + od ≤ 64 := hroom.back
  refine ⟨(dl.odReq .write .isdu a od p).2.txbuffer.slice dl.odHandler.odoutBuffer od, ?_,
    Buffer.length_slice _ hback, ?_⟩
  · rw [writeSegment, if_pos hwrites, hhead, hflow, hout, odReq_messageHandler, hroom.odLen]
  · have hsrc : (p.reach.take od).length = min od p.reach.length := List.length_take
    have hslice := b.slice_write_self dl.odHandler.odoutBuffer (p.reach.take od)
      (show dl.odHandler.odoutBuffer + (p.reach.take od).length ≤ 64 by omega)
    rw [hb]
    -- the array may end before the segment does
    rcases Nat.le_total od p.reach.length with hle | hle
    · rw [hsrc, Nat.min_eq_left hle] at hslice
      rw [hslice, List.take_take, Nat.min_eq_right hle]
    · rw [hsrc, Nat.min_eq_right hle] at hslice
      rw [Buffer.slice, List.take_take, Nat.min_eq_left hle]
      exact hslice

/-! ### The handlers at a master message -/

/-- The event handler has a message to prepare. -/
def EventPrepares (dl : Dl) : Prop :=
  dl.eventHandler.state = .idle1 ∧ dl.eventHandler.ehcmd = .active ∨
    dl.eventHandler.state = .readevent2 ∧ dl.eventHandler.evAddr ≤ 31

instance (dl : Dl) : Decidable dl.EventPrepares := by unfold EventPrepares; infer_instance

theorem cmdHSm_not_writesIsdu {dl : Dl} (hroom : 2 ≤ dl.odHandler.odoutBuffer)
    (h : dl.cmdHandler.state = .mastercommand2 ∨ ¬ dl.WritesIsdu) : ¬ dl.cmdHSm.WritesIsdu := by
  unfold cmdHSm
  split
  · have hstale := h.resolve_left (by simp [*])
    split_ifs
    · exact hstale
    · exact hstale
  · have hstale := h.resolve_left (by simp [*])
    unfold cmdHSmIdle1
    split_ifs
    · exact hstale
    · split
      · exact hstale
      · exact hstale
      · exact hstale
      · exact hstale
  · rw [writesIsdu_modCmd]
    exact not_writesIsdu_of_odReq hroom (.inr (.inl rfl)) (Nat.zero_le _) (by decide) _

/-- The event handler in IDLE_1, called to prepare a message. -/
private theorem evHSmIdle1_not_writesIsdu {dl : Dl} (hroom : 2 ≤ dl.odHandler.odoutBuffer)
    (htrigger : dl.odHandler.trigger = .masterMessage) (hmhinfo : dl.modeHandler.mhinfo ≠ .comlost)
    (h : dl.eventHandler.ehcmd = .active ∨ ¬ dl.WritesIsdu) : ¬ dl.evHSmIdle1.WritesIsdu := by
  unfold evHSmIdle1
  split_ifs with hcmd hconf
  · exact h.resolve_left (by rw [hcmd]; decide)
  · unfold evConfirm
    dsimp only
    rw [modEvent_modeHandler, if_neg hmhinfo, writesIsdu_modEvent]
    refine not_writesIsdu_of_odReq ?_ (.inr (.inr rfl)) (Nat.zero_le _) (by decide) _
    exact hroom
  · unfold evBegin
    dsimp only
    rw [writesIsdu_modEvent]
    refine not_writesIsdu_of_odReq ?_ (.inl rfl) (Nat.zero_le _) (by decide) _
    exact hroom

theorem evHSm_not_writesIsdu {dl : Dl} (hroom : 2 ≤ dl.odHandler.odoutBuffer)
    (htrigger : dl.odHandler.trigger = .masterMessage) (hmhinfo : dl.modeHandler.mhinfo ≠ .comlost)
    (h : dl.EventPrepares ∨ ¬ dl.WritesIsdu) : ¬ dl.evHSm.WritesIsdu := by
  unfold EventPrepares at h
  unfold evHSm
  split
  · have hstale := h.resolve_left (by simp [*])
    unfold evHSmInactive0
    split_ifs
    · exact hstale
    · exact hstale
  · refine evHSmIdle1_not_writesIsdu hroom htrigger hmhinfo (h.imp_left ?_)
    rintro (⟨-, hcmd⟩ | ⟨hread, -⟩)
    · exact hcmd
    · simp [*] at hread
  · unfold evHSmReadEvent2
    rw [if_neg hmhinfo, htrigger]
    dsimp only
    -- `OD_req` refuses an address above 31, and the message before stays where it is
    rcases Nat.lt_or_ge 31 dl.eventHandler.evAddr with hlt | hle
    · have hstale := h.resolve_left (by
        rintro (⟨hidle, -⟩ | ⟨-, hle⟩)
        · simp [*] at hidle
        · exact absurd hle (Nat.not_le.mpr hlt))
      unfold Dl.odReq
      rw [if_neg (by decide), if_pos hlt]
      exact hstale
    · exact not_writesIsdu_of_odReq hroom (.inl rfl) hle (by decide) _
  · exact h.resolve_left (by simp [*])
  · exact h.resolve_left (by simp [*])

/-! ### The transmission at the ISDU handler -/

/-- The flow control of the segment with number `k`, counted from 0. -/
def flowControl (k : ℕ) : ℕ := if k = 0 then flowctrlStart else k % 16

theorem flowControl_lt (k : ℕ) : flowControl k < 32 := by
  unfold flowControl
  split_ifs
  · decide
  · exact Nat.lt_trans (Nat.mod_lt _ (by decide)) (by decide)

/-- The request of `dl₀` is being sent, and nothing has disturbed it. -/
structure Sending (dl₀ : Dl) (od : ℕ) (dl : Dl) : Prop where
  isduData : dl.isduHandler.isduData = dl₀.isduHandler.isduData
  totalIsduSeg : dl.isduHandler.totalIsduSeg = dl₀.isduHandler.totalIsduSeg
  ihcmd : dl.isduHandler.ihcmd = .active
  ohcmd : dl.odHandler.ohcmd = .active
  rwcmd : dl.messageHandler.rwcmd = .isdutransport
  mhinfo : dl.modeHandler.mhinfo ≠ .comlost
  room : dl.OdRoom od

/-- The segment with number `k` is the next one. -/
def NextSegment (dl : Dl) (k : ℕ) : Prop :=
  dl.isduHandler.state = .idle1 ∧ k = 0 ∨
    dl.isduHandler.state = .isdurequest2 ∧ dl.isduHandler.currentIsduSeg = k ∧ k ≠ 0

section

variable {dl₀ dl dl' : Dl} {od k : ℕ}

theorem Sending.of_kept (h : Sending dl₀ od dl) (hk : dl.RequestKept dl') :
    Sending dl₀ od dl' := by
  obtain ⟨-, hohcmd, hout⟩ := hk.od
  refine ⟨?_, ?_, ?_, hohcmd.trans h.ohcmd, ?_, ?_, ?_, ?_, ?_⟩
  · rw [hk.isdu]
    exact h.isduData
  · rw [hk.isdu]
    exact h.totalIsduSeg
  · rw [hk.isdu]
    exact h.ihcmd
  · rw [hk.message]
    exact h.rwcmd
  · rw [hk.mode]
    exact h.mhinfo
  · rw [hk.message]
    exact h.room.odLen
  · rw [hout]
    exact h.room.front
  · rw [hout]
    exact h.room.back

theorem Sending.odState (h : Sending dl₀ od dl) (state : OdhSt) :
    Sending dl₀ od (dl.modOd ({ · with state := state })) :=
  ⟨h.isduData, h.totalIsduSeg, h.ihcmd, h.ohcmd, h.rwcmd, h.mhinfo, h.room.odLen, h.room.front,
    h.room.back⟩

theorem Sending.odTrigger (h : Sending dl₀ od dl) (trigger : Trigger) :
    Sending dl₀ od (dl.modOd ({ · with trigger := trigger })) :=
  ⟨h.isduData, h.totalIsduSeg, h.ihcmd, h.ohcmd, h.rwcmd, h.mhinfo, h.room.odLen, h.room.front,
    h.room.back⟩

/-- The progress of the handler. -/
theorem Sending.progress (h : Sending dl₀ od dl) (seg : ℕ) (state : IsduhSt) (timer : UInt32) :
    Sending dl₀ od (dl.modIsdu
      ({ · with currentIsduSeg := seg, state := state, isduTimer := timer })) :=
  ⟨h.isduData, h.totalIsduSeg, h.ihcmd, h.ohcmd, h.rwcmd, h.mhinfo, h.room.odLen, h.room.front,
    h.room.back⟩

/-- **The handler prepares the next segment.** -/
theorem isduHSm_masterMessage (h : Sending dl₀ od dl) (hod : od ≤ 32) (hk : dl.NextSegment k)
    (hlt : k < 255) (htrigger : dl.odHandler.trigger = .masterMessage) :
    ∃ octets, dl.isduHSm.writeSegment = some (flowControl k, octets) ∧ octets.length = od ∧
      octets.take (isduMaxSize - od * k) = (dl₀.isduHandler.isduData.suffix (od * k)).take od ∧
      dl.isduHSm.isduHandler.state = .isdurequest2 ∧
      dl.isduHSm.isduHandler.currentIsduSeg = k + 1 ∧
      dl.isduHSm.odHandler.state = dl.odHandler.state ∧ Sending dl₀ od dl.isduHSm := by
  obtain ⟨octets, hsegment, hlen, hoctets⟩ := odReq_writeSegment hod h.room (flowControl_lt k)
    ⟨.isduData, dl.isduHandler.isduData.suffix (od * k)⟩
  obtain ⟨d, hd⟩ : ∃ d, d = (dl.odReq .write .isdu (flowControl k) od
    ⟨.isduData, dl.isduHandler.isduData.suffix (od * k)⟩).2 := ⟨_, rfl⟩
  have hkept : dl.RequestKept d := by
    rw [hd]
    exact (RequestKept.refl dl).odReq _ _ _ _ _
  -- the first segment and the later ones are prepared in two states, in the same way
  have hstep : dl.isduHSm = d.modIsdu ({ · with
      currentIsduSeg := k + 1, state := .isdurequest2, isduTimer := d.isduHandler.isduTimer }) := by
    rcases hk with ⟨hstate, rfl⟩ | ⟨hstate, hseg, hk⟩
    · simp only [isduHSm, hstate, isduHSmIdle1, h.ihcmd, htrigger, isduIdle1MasterMessage, h.rwcmd,
        h.room.odLen]
      rw [hd, Nat.mul_zero]
      rfl
    · have hab : ¬ (dl.messageHandler.rwcmd = .isduabort ∨ dl.modeHandler.mhinfo = .comlost) := by
        rw [h.rwcmd]
        exact not_or.mpr ⟨MHRWCmd.noConfusion, h.mhinfo⟩
      have hnarrow : narrow8 (k + 1) = k + 1 := narrow8_of_lt (by omega)
      have hflow : k % 16 = flowControl k := (if_neg hk).symm
      have hreq : d.isduHandler.state = .isdurequest2 := by rw [hkept.isdu, hstate]
      simp only [isduHSm, hstate, isduHSmIsduRequest2, if_neg hab, htrigger, hseg, hnarrow, hflow,
        h.room.odLen]
      rw [← hd]
      simp only [modIsdu, ← hreq]
  rw [hstep]
  rw [← hd] at hsegment
  have hreach : (dl.isduHandler.isduData.suffix (od * k)).length = isduMaxSize - od * k :=
    Buffer.length_suffix _ _
  rw [← h.isduData]
  refine ⟨octets, hsegment, hlen, ?_, rfl, rfl, hkept.od.1, (h.of_kept hkept).progress _ _ _⟩
  rw [← hreach]
  exact hoctets

/-- **The handler sees the end of the request** in the answer to the last segment, and nothing in
the answers before. -/
theorem isduHSm_deviceMessage (h : Sending dl₀ od dl) (hk : dl.NextSegment k)
    (htrigger : dl.odHandler.trigger = .deviceMessage) :
    dl.isduHSm.odHandler = dl.odHandler ∧ Sending dl₀ od dl.isduHSm ∧
      if k ≠ 0 ∧ dl₀.isduHandler.totalIsduSeg ≤ k then dl.isduHSm.isduHandler.state = .isduwait3
      else dl.isduHSm.NextSegment k := by
  have hab : ¬ (dl.messageHandler.rwcmd = .isduabort ∨ dl.modeHandler.mhinfo = .comlost) := by
    rw [h.rwcmd]
    exact not_or.mpr ⟨MHRWCmd.noConfusion, h.mhinfo⟩
  rcases hk with ⟨hstate, rfl⟩ | ⟨hstate, hseg, hk⟩
  · have hstep : dl.isduHSm = dl := by
      simp [isduHSm, hstate, isduHSmIdle1, h.ihcmd, htrigger, isduIdle1DeviceMessage, h.rwcmd]
    rw [hstep, if_neg (fun hand => hand.1 rfl)]
    exact ⟨rfl, h, .inl ⟨hstate, rfl⟩⟩
  · simp only [isduHSm, hstate, isduHSmIsduRequest2, if_neg hab, htrigger, hseg, h.totalIsduSeg]
    split_ifs with hlast hand hand
    · exact ⟨rfl, h.progress _ _ _, rfl⟩
    · exact absurd ⟨hk, hlast⟩ hand
    · exact absurd hand.2 hlast
    · exact ⟨rfl, h, .inr ⟨hstate, hseg, hk⟩⟩

/-! ### The transmission at the OD handler -/

/-- The next master message is the ISDU handler's. -/
def CarriesIsdu (dl : Dl) : Prop :=
  dl.odHandler.state = .isdu1 ∧ dl.cmdHandler.controlCode = .none

instance (dl : Dl) : Decidable dl.CarriesIsdu := by unfold CarriesIsdu; infer_instance

/-- In a state of the OD handler, one of the handlers has a message to prepare. -/
def PreparesIn (dl : Dl) : OdhSt → Prop
  | .inactive0 | .command2 => False
  | .isdu1 => dl.cmdHandler.controlCode ≠ .none → dl.cmdHandler.state = .mastercommand2
  | .event3 =>
    if dl.cmdHandler.controlCode ≠ .none then dl.cmdHandler.state = .mastercommand2
    else dl.eventHandler.eventFlag = true ∧ dl.EventPrepares

instance (dl : Dl) : (state : OdhSt) → Decidable (dl.PreparesIn state)
  | .inactive0 | .command2 => inferInstanceAs (Decidable False)
  | .isdu1 => inferInstanceAs (Decidable (_ → _))
  | .event3 => inferInstanceAs (Decidable (if dl.cmdHandler.controlCode ≠ .none then
      dl.cmdHandler.state = .mastercommand2
      else dl.eventHandler.eventFlag = true ∧ dl.EventPrepares))

/-- One of the handlers has a message to prepare. -/
def Prepares (dl : Dl) : Prop := dl.PreparesIn dl.odHandler.state

instance (dl : Dl) : Decidable dl.Prepares := inferInstanceAs (Decidable (dl.PreparesIn _))

/-- **A message of the ISDU handler.** The event flag turns the OD handler to the events. -/
theorem odHSm_of_carriesIsdu (h : Sending dl₀ od dl) (hc : dl.CarriesIsdu)
    (htrigger : dl.odHandler.trigger = .masterMessage) :
    dl.odHSm =
      if dl.eventHandler.eventFlag = true then dl.isduHSm.modOd ({ · with state := .event3 })
      else dl.isduHSm.modOd ({ · with trigger := .none }) := by
  have hactive : dl.odHandler.ohcmd ≠ .inactive := by
    rw [h.ohcmd]
    exact HandlerCmd.noConfusion
  have hcmd : ¬ (dl.cmdHandler.controlCode ≠ .none ∧ dl.odHandler.trigger = .masterMessage) :=
    fun hand => hand.1 hc.2
  have hnone : dl.odHandler.trigger ≠ .none := by
    rw [htrigger]
    exact Trigger.noConfusion
  simp only [odHSm, hc.1, odHSmIsdu1, if_neg hactive, if_neg hcmd, if_pos hnone]

/-- **A message of another handler** is no ISDU write, unless it is the message before. -/
theorem odHSm_of_diverted (h : Sending dl₀ od dl) (hc : ¬ dl.CarriesIsdu)
    (htrigger : dl.odHandler.trigger = .masterMessage) (hp : dl.Prepares ∨ ¬ dl.WritesIsdu) :
    ¬ dl.odHSm.WritesIsdu ∧ dl.odHSm.isduHandler = dl.isduHandler ∧ Sending dl₀ od dl.odHSm := by
  have hactive : dl.odHandler.ohcmd ≠ .inactive := by
    rw [h.ohcmd]
    exact HandlerCmd.noConfusion
  have hnone : dl.odHandler.trigger ≠ .none := by
    rw [htrigger]
    exact Trigger.noConfusion
  have hcmd : dl.RequestKept dl.cmdHSm := (requestKept_closed dl).cmdHSm (.refl dl)
  have hev : dl.RequestKept dl.evHSm := (requestKept_closed dl).evHSm (.refl dl)
  unfold Prepares PreparesIn at hp
  unfold odHSm
  split
  -- An idle handler does nothing with the message.
  next hs =>
    have hstale := hp.resolve_left (by simp [hs])
    rw [odHSmInactive0, if_pos h.ohcmd]
    exact ⟨hstale, rfl, h.odState _⟩
  -- A control code goes before the ISDU.
  next hs =>
    have hcode : dl.cmdHandler.controlCode ≠ .none := fun hnone => hc ⟨hs, hnone⟩
    rw [odHSmIsdu1, if_neg hactive, if_pos ⟨hcode, htrigger⟩, writesIsdu_modOd]
    refine ⟨cmdHSm_not_writesIsdu h.room.front ?_, hcmd.isdu, (h.of_kept hcmd).odState _⟩
    simpa [hs, hcode] using hp
  -- The command is written once more, or the handler is back at the ISDU.
  next hs =>
    have hstale := hp.resolve_left (by simp [hs])
    have htaken := h.odTrigger .none
    have hkept := (requestKept_closed (dl.modOd ({ · with trigger := .none }))).writeMasterCommand
      (.refl _) .noError
    have hwritten : ¬ ((dl.modOd ({ · with trigger := .none })).writeMasterCommand
        .noError).WritesIsdu := by
      unfold writeMasterCommand
      dsimp only
      split_ifs
      · exact hstale
      · exact hstale
    rw [odHSmCommand2, if_neg hactive, if_pos hnone]
    dsimp only
    split_ifs
    · exact ⟨hwritten, hkept.isdu, (htaken.of_kept hkept).odState _⟩
    · exact ⟨hwritten, hkept.isdu, (htaken.of_kept hkept).odState _⟩
    · exact ⟨hstale, rfl, htaken⟩
  next hs =>
    rw [odHSmEvent3, if_neg hactive]
    split_ifs with hcode hflag
    · rw [writesIsdu_modOd]
      refine ⟨cmdHSm_not_writesIsdu h.room.front ?_, hcmd.isdu, (h.of_kept hcmd).odState _⟩
      simpa [hs, hcode.1] using hp
    · have hstale := hp.resolve_left (by simp_all)
      exact ⟨hstale, rfl, h.odState _⟩
    · rw [writesIsdu_modOd]
      refine ⟨evHSm_not_writesIsdu h.room.front htrigger h.mhinfo ?_, hev.isdu,
        (h.of_kept hev).odTrigger _⟩
      refine hp.imp_left ?_
      simp only [hs]
      rw [if_neg (fun hcode' => hcode ⟨hcode', htrigger⟩)]
      exact And.right

/-- **A device message** goes to the ISDU handler in ISDU_1, and past it in the other states. -/
theorem odHSm_deviceMessage (h : Sending dl₀ od dl)
    (htrigger : dl.odHandler.trigger = .deviceMessage) :
    dl.odHSm.isduHandler =
        (if dl.odHandler.state = .isdu1 then dl.isduHSm.isduHandler else dl.isduHandler) ∧
      (Sending dl₀ od dl.isduHSm → Sending dl₀ od dl.odHSm) := by
  have hactive : dl.odHandler.ohcmd ≠ .inactive := by
    rw [h.ohcmd]
    exact HandlerCmd.noConfusion
  have hmaster : ∀ c : Prop, ¬ (c ∧ dl.odHandler.trigger = .masterMessage) := by
    intro c hand
    rw [htrigger] at hand
    exact Trigger.noConfusion hand.2
  have hnone : dl.odHandler.trigger ≠ .none := by
    rw [htrigger]
    exact Trigger.noConfusion
  have hev : dl.RequestKept dl.evHSm := (requestKept_closed dl).evHSm (.refl dl)
  unfold odHSm
  split
  next hs =>
    rw [odHSmInactive0, if_pos h.ohcmd, hs]
    exact ⟨rfl, fun _ => h.odState _⟩
  next hs =>
    rw [odHSmIsdu1, if_neg hactive, if_neg (hmaster _), if_pos hs, if_pos hnone]
    split_ifs
    · exact ⟨rfl, fun hsent => hsent.odState _⟩
    · exact ⟨rfl, fun hsent => hsent.odTrigger _⟩
  next hs =>
    have htaken := h.odTrigger .none
    have hkept := (requestKept_closed (dl.modOd ({ · with trigger := .none }))).writeMasterCommand
      (.refl _) .noError
    have hother : dl.odHandler.state ≠ .isdu1 := by
      rw [hs]
      exact OdhSt.noConfusion
    rw [if_neg hother, odHSmCommand2, if_neg hactive, if_pos hnone]
    dsimp only
    split_ifs
    · exact ⟨hkept.isdu, fun _ => (htaken.of_kept hkept).odState _⟩
    · exact ⟨hkept.isdu, fun _ => (htaken.of_kept hkept).odState _⟩
    · exact ⟨rfl, fun _ => htaken⟩
  next hs =>
    have hother : dl.odHandler.state ≠ .isdu1 := by
      rw [hs]
      exact OdhSt.noConfusion
    rw [if_neg hother, odHSmEvent3, if_neg hactive, if_neg (hmaster _)]
    split_ifs
    · exact ⟨rfl, fun _ => h.odState _⟩
    · exact ⟨hev.isdu, fun _ => (h.of_kept hev).odTrigger _⟩

end

/-! ### Services during a transmission -/

theorem RequestKept.writeDevicemodeReq (dl : Dl) (devicemode : DlMode) :
    dl.RequestKept (dl.writeDevicemodeReq devicemode).2 := by
  have hcmd : ∀ f : CmdHandler → CmdHandler, dl.RequestKept (dl.modCmd f).cmdHSm := fun _ =>
    (requestKept_closed dl).cmdHSm ((requestKept_closed dl).cmd _ (.refl dl))
  unfold Dl.writeDevicemodeReq
  rcases Decidable.em (dl.modeHandler.state = .startup2) with hstartup | hstartup
  · rw [if_pos hstartup]
    exact ⟨rfl, rfl, rfl, rfl, rfl, rfl⟩
  · rw [if_neg hstartup]
    dsimp only
    generalize hd : (dl.modCmd _).cmdHSm = d
    have hkept : dl.RequestKept d := by
      rw [← hd]
      exact hcmd _
    split_ifs
    · exact ⟨hkept.isdu, hkept.message, hkept.mode, hkept.od⟩
    · exact ⟨hkept.isdu, hkept.message, hkept.mode, hkept.od⟩
    · exact hkept

theorem RequestKept.pdOutputUpdateReq (dl : Dl) (outputdata : List Octet) :
    dl.RequestKept (dl.pdOutputUpdateReq outputdata).2 := by
  unfold Dl.pdOutputUpdateReq
  split_ifs
  · exact .refl dl
  · dsimp only
    split_ifs
    · exact ⟨rfl, rfl, rfl, rfl, rfl, rfl⟩
    · exact ⟨rfl, rfl, rfl, rfl, rfl, rfl⟩

end Dl

end IolHat
