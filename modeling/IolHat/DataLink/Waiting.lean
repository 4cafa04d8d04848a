import IolHat.DataLink.OnRequestCalls
import IolHat.DataLink.ParamRequest
import IolHat.DataLink.ThreadFootprint

/-!
# Waiting for a reply

In PREOPERATE the message handler waits for the device in `RESPONSE_8` and `AW_REPLY_9`. A step is
`Prompt` when a reply that is handled there leaves the handler in a state from which the next master
message will be sent, and when the handler does not wait while nothing is outstanding.

`prompt_iff` says which runs consist of such steps: those in which no reply meets a set event flag
while the ISDU handler comes to rest. For that case the source assigns no state. The flag is taken
from the check/stat octet that was read last, and PREOPERATE reads none.
-/

namespace IolHat

/-- A handler that is not deactivated is active. -/
theorem HandlerCmd.eq_active_of_ne {cmd : HandlerCmd} (h : cmd ≠ .inactive) : cmd = .active := by
  cases cmd with
  | inactive => exact absurd rfl h
  | active => rfl

namespace Dl

/-! ### Replies -/

/-- The message handler waits for a reply in PREOPERATE. -/
def AwaitsReply (dl : Dl) : Prop :=
  dl.messageHandler.state = .response8 ∨ dl.messageHandler.state = .awReply9

instance (dl : Dl) : Decidable dl.AwaitsReply := by unfold AwaitsReply; infer_instance

/-- The next master message will be sent: when there is something to be exchanged, when the timer
elapses, or with the next cycle. -/
def WillSend (dl : Dl) : Prop :=
  dl.messageHandler.state = .preoperate6 ∨
    (dl.messageHandler.state = .getod7 ∧ dl.vars.timerType = .tinitcycMh ∧
      dl.objects.timerRunning = true) ∨
    dl.messageHandler.state = .awReply16

instance (dl : Dl) : Decidable dl.WillSend := by unfold WillSend; infer_instance

/-! ### The ISDU handler comes to rest -/

/-- A segment that is the whole response, in `isdu_data`. -/
def IsWholeResponse (dl : Dl) : Prop :=
  dl.isduHandler.isduData.get 0 ≠ (iserviceNoService <<< 4) ||| 0x01 ∧
    dl.isduHandler.isduData.get 0 ≠ 0 ∧ dl.validIsduHeader = true ∧
    dl.readTotalLen.getIsduTotalSegments ≤ 1

/-- The ISDU handler is called with the octets in `rxbuffer` and goes to IDLE_1, or stays there. -/
def IsduEnds (dl : Dl) : Prop :=
  match dl.isduHandler.state with
  | .inactive0 | .idle1 | .isduerror4 => dl.isduHandler.ihcmd = .active
  | .isdurequest2 => False
  | .isduwait3 => dl.messageHandler.rwcmd ≠ .isduabort ∧ dl.isduTimerElapsed = false ∧
      dl.modeHandler.mhinfo ≠ .comlost ∧ dl.storeSegment.IsWholeResponse
  | .isduresponse5 => dl.messageHandler.rwcmd ≠ .isduabort ∧ dl.modeHandler.mhinfo ≠ .comlost ∧
      dl.readTotalLen.getIsduTotalSegments ≤ narrow8 (dl.isduHandler.currentIsduSeg + 1)

/-- The ISDU handler is in IDLE_1 after the reply. The OD handler calls it in ISDU_1 only. -/
def RestsAfterReply (dl : Dl) : Prop :=
  if dl.odHandler.state = .isdu1 ∧ dl.odHandler.ohcmd = .active then dl.IsduEnds
  else dl.isduHandler.state = .idle1

/-- Nothing follows the reply: the event flag is set, the ISDU handler rests, and OPERATE has not
been requested. -/
def FlagAtRest (dl : Dl) (octets : List Octet) : Prop :=
  dl.getCKSEvFlag = true ∧ dl.messageHandler.mhcmd ≠ .operate ∧
    (dl.writeRx octets).RestsAfterReply

/-! ### One call of the OD handler -/

section Rest

variable {dl : Dl}

/-- An error is not reported before the next master message. -/
theorem isduHSmEnterIsduerror4_ne_idle1 (htrigger : dl.odHandler.trigger = .deviceMessage) :
    dl.isduHSmEnterIsduerror4.isduHandler.state ≠ .idle1 := by
  unfold isduHSmEnterIsduerror4
  split_ifs with hinactive hmaster
  · exact IsduhSt.noConfusion
  · exact absurd (htrigger.symm.trans hmaster) (by decide)
  · exact IsduhSt.noConfusion

/-- A response is confirmed and the handler goes to IDLE_1, or another segment is due. -/
theorem isduWait3Stored_idle1 (hstate : dl.isduHandler.state = .isduwait3)
    (htrigger : dl.odHandler.trigger = .deviceMessage) :
    dl.isduWait3Stored.isduHandler.state = .idle1 ↔ dl.IsWholeResponse := by
  have herror := isduHSmEnterIsduerror4_ne_idle1
    (show dl.isduTimerReset.odHandler.trigger = .deviceMessage from htrigger)
  unfold isduWait3Stored IsWholeResponse
  split_ifs with hbusy hnone hvalid
  · exact iff_of_false (by rw [hstate]; decide) fun h => h.1 hbusy
  · exact iff_of_false herror fun h => h.2.1 hnone
  · unfold isduWait3Response
    dsimp only
    split_ifs with hlast
    · exact iff_of_true rfl ⟨hbusy, hnone, hvalid, hlast⟩
    · exact iff_of_false IsduhSt.noConfusion fun h => hlast h.2.2.2
  · exact iff_of_false herror fun h => hvalid h.2.2.1

theorem isduHSm_idle1 (htrigger : dl.odHandler.trigger = .deviceMessage) :
    dl.isduHSm.isduHandler.state = .idle1 ↔ dl.IsduEnds := by
  have herror := isduHSmEnterIsduerror4_ne_idle1 htrigger
  cases hs : dl.isduHandler.state with
  | inactive0 =>
    simp only [isduHSm, IsduEnds, hs, isduHSmInactive0]
    split
    next hc => exact iff_of_true rfl hc
    next hc => exact iff_of_false (by rw [hs]; decide) (by rw [hc]; decide)
  | idle1 =>
    simp only [isduHSm, IsduEnds, hs, isduHSmIdle1]
    split_ifs with hinactive
    · refine iff_of_false ?_ (by rw [hinactive]; decide)
      unfold isduIdle1Deactivate
      exact IsduhSt.noConfusion
    · rw [htrigger]
      refine iff_of_true ?_ (HandlerCmd.eq_active_of_ne hinactive)
      dsimp only
      unfold isduIdle1DeviceMessage
      split <;> exact hs
  | isdurequest2 =>
    simp only [isduHSm, IsduEnds, hs, isduHSmIsduRequest2]
    refine iff_of_false ?_ id
    split_ifs
    · exact herror
    · rw [htrigger]
      exact IsduhSt.noConfusion
    · rw [htrigger]
      dsimp only
      rw [hs]
      exact IsduhSt.noConfusion
  -- The timer and the loss of communication go before what the device has answered.
  | isduwait3 =>
    simp only [isduHSm, IsduEnds, hs, isduHSmIsduWait3]
    split_ifs with habort hlate
    · refine iff_of_false (isduHSmEnterIsduerror4_ne_idle1 ?_) fun h => h.1 habort
      exact htrigger
    · refine iff_of_false herror fun h => ?_
      obtain helapsed | hlost := hlate
      · exact Bool.noConfusion (h.2.1.symm.trans helapsed)
      · exact h.2.2.1 hlost
    · rw [htrigger]
      have hstored : dl.storeSegment.isduHandler.state = .isduwait3 := hs
      refine (isduWait3Stored_idle1 hstored htrigger).trans ?_
      obtain ⟨helapsed, hlost⟩ := not_or.mp hlate
      exact ⟨fun h => ⟨habort, Bool.eq_false_iff.mpr helapsed, hlost, h⟩, fun h => h.2.2.2⟩
  | isduerror4 =>
    simp only [isduHSm, IsduEnds, hs, isduHSmIsduError4]
    split_ifs with hinactive
    · exact iff_of_false IsduhSt.noConfusion (by rw [hinactive]; decide)
    · exact iff_of_true rfl (HandlerCmd.eq_active_of_ne hinactive)
  | isduresponse5 =>
    simp only [isduHSm, IsduEnds, hs, isduHSmIsduResponse5]
    split_ifs with hdiverted
    · exact iff_of_false herror fun h => hdiverted.elim h.1 h.2.1
    · rw [htrigger]
      obtain ⟨habort, hlost⟩ := not_or.mp hdiverted
      dsimp only
      unfold isduResponse5Stored
      dsimp only
      split_ifs with hlast
      · exact iff_of_true rfl ⟨habort, hlost, hlast⟩
      · refine iff_of_false ?_ fun h => hlast h.2.2
        exact fun h => IsduhSt.noConfusion (hs.symm.trans h)

/-- The command and the event handler leave the ISDU handler alone. -/
theorem isduKept_closed (dl : Dl) : SideClosed fun d => d.isduHandler = dl.isduHandler where
  cmd _ h := h
  event _ h := h
  pdValid _ h := h
  emit _ h := h
  access _ _ h := h
  odReq _ _ _ _ _ h := (odReq_isduHandler ..).trans h

/-- **The OD handler with a device message**, while the event flag is set. -/
theorem odHSm_idle1 (htrigger : dl.odHandler.trigger = .deviceMessage)
    (hflag : dl.eventHandler.eventFlag = true) :
    dl.odHSm.isduHandler.state = .idle1 ↔ dl.RestsAfterReply := by
  -- a control code is sent with a master message only
  have hmaster : ¬ (dl.cmdHandler.controlCode ≠ .none ∧ dl.odHandler.trigger = .masterMessage) := by
    rintro ⟨-, hmaster⟩
    exact absurd (htrigger.symm.trans hmaster) (by decide)
  have hkept : ∀ d : Dl, d.isduHandler = dl.isduHandler →
      (d.isduHandler.state = .idle1 ↔ dl.isduHandler.state = .idle1) := by
    intro d h
    rw [h]
  unfold RestsAfterReply
  cases hs : dl.odHandler.state with
  | inactive0 =>
    rw [if_neg fun h => OdhSt.noConfusion h.1]
    refine hkept _ ?_
    simp only [odHSm, hs, odHSmInactive0]
    split_ifs <;> rfl
  | isdu1 =>
    simp only [odHSm, hs, odHSmIsdu1, if_neg hmaster, if_pos hflag]
    split_ifs with hinactive hactive hactive
    · exact absurd (hinactive.symm.trans hactive.2) (by decide)
    · exact hkept _ rfl
    · exact isduHSm_idle1 htrigger
    · exact absurd ⟨trivial, HandlerCmd.eq_active_of_ne hinactive⟩ hactive
  | command2 =>
    rw [if_neg fun h => OdhSt.noConfusion h.1]
    refine hkept _ ?_
    have hwritten : ((dl.modOd ({ · with trigger := .none })).writeMasterCommand
        .noError).isduHandler = dl.isduHandler :=
      (isduKept_closed (dl.modOd _)).writeMasterCommand rfl _
    simp only [odHSm, hs, odHSmCommand2]
    split_ifs
    · rfl
    · exact hwritten
    · exact hwritten
    · rfl
    · rfl
  | event3 =>
    rw [if_neg fun h => OdhSt.noConfusion h.1]
    refine hkept _ ?_
    simp only [odHSm, hs, odHSmEvent3, if_neg hmaster]
    split_ifs
    · rfl
    · rfl
    · exact (isduKept_closed dl).evHSm rfl
    · rfl

/-- The message handler takes the reply. -/
theorem messageHSm_takeReply (h : dl.AwaitsReply) (octets : List Octet) :
    (dl.takeReply octets).messageHSm = (dl.takeReply octets).awaitReply9Received := by
  have hready : (dl.takeReply octets).vars.dataready = true := rfl
  obtain h | h := h
  · have hstate : (dl.takeReply octets).messageHandler.state = .response8 := h
    simp only [messageHSm, hstate, messageHSmResponse8, messageHSmAwaitReply9, if_pos hready]
  · have hstate : (dl.takeReply octets).messageHandler.state = .awReply9 := h
    simp only [messageHSm, hstate, messageHSmAwaitReply9, if_pos hready]

/-- What is stored besides the octets is of no importance for the ISDU handler. -/
theorem restsAfterReply_takeReply (dl : Dl) (octets : List Octet) :
    (dl.unlogged.takeReply octets).RestsAfterReply ↔ (dl.writeRx octets).RestsAfterReply := by
  have hvars : ∀ (d : Dl) (f : DlVars → DlVars),
      (d.modVars f).RestsAfterReply ↔ d.RestsAfterReply := fun _ _ => Iff.rfl
  have haccess : ∀ (d : Dl) (a : Fault) (inside : Bool),
      ((d.access a inside).writeRx octets).RestsAfterReply ↔ (d.writeRx octets).RestsAfterReply :=
    fun _ _ _ => Iff.rfl
  have hlog : (dl.unlogged.writeRx octets).RestsAfterReply ↔
      (dl.writeRx octets).RestsAfterReply := Iff.rfl
  exact (hvars _ _).trans ((haccess _ _ _).trans hlog)

/-- A handler that waits does not go on by itself. -/
theorem AwaitsReply.not_willSend (h : dl.AwaitsReply) : ¬ dl.WillSend := by
  intro hsend
  obtain h | h := h
  all_goals
    simp only [WillSend, h] at hsend
    obtain hsend | ⟨hsend, -⟩ | hsend := hsend
    · exact MhSt.noConfusion hsend
    · exact MhSt.noConfusion hsend
    · exact MhSt.noConfusion hsend

/-- **A reply is handled.** The next message follows, unless the flag is set while the ISDU handler
comes to rest. -/
theorem awaitReply9Received_willSend (hawaits : dl.AwaitsReply) :
    dl.awaitReply9Received.WillSend ↔
      ¬ (dl.getCKSEvFlag = true ∧ dl.messageHandler.mhcmd ≠ .operate ∧ dl.RestsAfterReply) := by
  obtain ⟨e, he⟩ : ∃ e, e = (dl.modOd ({ · with trigger := .deviceMessage })).eventFlagInd
    dl.getCKSEvFlag := ⟨_, rfl⟩
  have hfront := (OnRequestCalls.refl e).odHSm.front
  have hstate : e.odHSm.messageHandler.state = dl.messageHandler.state :=
    (congrArg Prod.fst hfront).trans (by rw [he]; rfl)
  have hmhcmd : e.odHSm.messageHandler.mhcmd = dl.messageHandler.mhcmd :=
    (congrArg (·.2.1) hfront).trans (by rw [he]; rfl)
  have hflag : e.odHSm.eventHandler.eventFlag = dl.getCKSEvFlag :=
    (congrArg (·.2.2.2) hfront).trans (by rw [he]; rfl)
  have hrests : dl.getCKSEvFlag = true →
      (e.odHSm.isduHandler.state = .idle1 ↔ dl.RestsAfterReply) := by
    intro hset
    refine (odHSm_idle1 (by rw [he]; rfl) (by rw [he]; exact hset)).trans ?_
    rw [he]
    exact Iff.rfl
  have hdef : dl.awaitReply9Received =
      if e.odHSm.isduHandler.state = .idle1 then
        if e.odHSm.messageHandler.mhcmd = .operate then
          e.odHSm.startTimerInitcyc.toMessage .awReply16
        else if !e.odHSm.eventHandler.eventFlag then e.odHSm.stopTimer.toMessage .preoperate6
        else e.odHSm
      else (e.odHSm.startTimerInitcyc.modOd
        ({ · with trigger := .masterMessage })).toMessage .getod7 := by
    rw [he]
    rfl
  rw [hdef, hmhcmd, hflag]
  split_ifs with hidle hoperate hclear
  · exact iff_of_true (.inr (.inr rfl)) fun h => h.2.1 hoperate
  · refine iff_of_true (.inl rfl) fun h => ?_
    rw [h.1] at hclear
    exact Bool.noConfusion hclear
  -- no state is assigned here
  · have hset : dl.getCKSEvFlag = true := by
      rwa [Bool.not_eq_true', Bool.not_eq_false] at hclear
    have hstays : e.odHSm.AwaitsReply := by
      rw [AwaitsReply, hstate]
      exact hawaits
    exact iff_of_false hstays.not_willSend fun h => h ⟨hset, hoperate, (hrests hset).mp hidle⟩
  · refine iff_of_true (.inr (.inl ⟨rfl, rfl, rfl⟩)) fun h => ?_
    exact hidle ((hrests h.1).mpr h.2.2)

end Rest

/-! ### Every wait begins with a message -/

/-- A handler that waits has sent a message. -/
def SentBeforeWait (dl : Dl) : Prop := dl.AwaitsReply → ∃ c ∈ dl.out, c.IsMessage

namespace SentBeforeWait

variable {dl dl' : Dl}

/-- The message handler stays where it is. -/
theorem of_kept (h : dl.SentBeforeWait)
    (hstate : dl'.messageHandler.state = dl.messageHandler.state)
    (hout : ∀ c ∈ dl.out, c ∈ dl'.out) : dl'.SentBeforeWait := by
  intro hawaits
  rw [AwaitsReply, hstate] at hawaits
  obtain ⟨c, hc, hmessage⟩ := h hawaits
  exact ⟨c, hout c hc, hmessage⟩

/-- The message handler goes to another state. -/
theorem of_state (hresponse : dl.messageHandler.state ≠ .response8)
    (hreply : dl.messageHandler.state ≠ .awReply9) : dl.SentBeforeWait :=
  fun h => absurd h (not_or.mpr ⟨hresponse, hreply⟩)

theorem toMessage {state : MhSt} (hresponse : state ≠ .response8) (hreply : state ≠ .awReply9) :
    (dl.toMessage state).SentBeforeWait := of_state hresponse hreply

/-- The last call hands over a message. -/
theorem of_sent {c : DlCall} {cs : List DlCall} (hout : dl.out = cs ++ [c]) (hc : c.IsMessage) :
    dl.SentBeforeWait := by
  intro _
  refine ⟨c, ?_, hc⟩
  rw [hout]
  exact List.mem_append_right _ (List.mem_singleton_self c)

theorem quiet (hquiet : dl.Quiet dl') (h : dl.SentBeforeWait) : dl'.SentBeforeWait := by
  obtain ⟨cs, hout, -⟩ := hquiet.calls
  refine h.of_kept hquiet.state fun c hc => ?_
  rw [hout]
  exact List.mem_append_left _ hc

theorem confirmStartupAccess (h : dl.SentBeforeWait) (value : Octet) (errinfo : Status) :
    (dl.confirmStartupAccess value errinfo).SentBeforeWait := by
  unfold Dl.confirmStartupAccess
  split
  · exact quiet (((Quiet.refl dl).rwcmd .none).emit id) h
  · exact quiet (((Quiet.refl dl).rwcmd .none).emit id) h
  · exact h

theorem messageHSmStartup2 (h : dl.SentBeforeWait) : dl.messageHSmStartup2.SentBeforeWait := by
  unfold Dl.messageHSmStartup2
  split_ifs
  · exact toMessage MhSt.noConfusion MhSt.noConfusion
  · exact toMessage MhSt.noConfusion MhSt.noConfusion
  · exact toMessage MhSt.noConfusion MhSt.noConfusion
  · exact h

theorem messageHSmAwaitReply4 (h : dl.SentBeforeWait) :
    dl.messageHSmAwaitReply4.SentBeforeWait := by
  unfold Dl.messageHSmAwaitReply4
  split_ifs
  · exact (toMessage MhSt.noConfusion MhSt.noConfusion).confirmStartupAccess _ _
  · exact toMessage MhSt.noConfusion MhSt.noConfusion
  · exact h

theorem messageHSmErrorHandling5 (h : dl.SentBeforeWait) :
    dl.messageHSmErrorHandling5.SentBeforeWait := by
  unfold Dl.messageHSmErrorHandling5
  split_ifs
  · exact (toMessage MhSt.noConfusion MhSt.noConfusion).confirmStartupAccess _ _
  · exact toMessage MhSt.noConfusion MhSt.noConfusion
  · exact h

theorem messageHSmPreoperate6 (h : dl.SentBeforeWait) :
    dl.messageHSmPreoperate6.SentBeforeWait := by
  unfold Dl.messageHSmPreoperate6
  split_ifs
  · exact toMessage MhSt.noConfusion MhSt.noConfusion
  · exact toMessage MhSt.noConfusion MhSt.noConfusion
  · exact toMessage MhSt.noConfusion MhSt.noConfusion
  · exact of_state MhSt.noConfusion MhSt.noConfusion
  · exact h

theorem messageHSmGetOd7 (dl : Dl) : dl.messageHSmGetOd7.SentBeforeWait :=
  of_sent rfl trivial

theorem messageHSmAwaitReply9 (h : dl.SentBeforeWait) :
    dl.messageHSmAwaitReply9.SentBeforeWait := by
  unfold Dl.messageHSmAwaitReply9
  split_ifs
  · unfold Dl.awaitReply9Received
    dsimp only
    split_ifs
    · exact toMessage MhSt.noConfusion MhSt.noConfusion
    · exact toMessage MhSt.noConfusion MhSt.noConfusion
    · exact quiet (OnRequestCalls.refl _).odHSm.quiet h
    · exact toMessage MhSt.noConfusion MhSt.noConfusion
  · exact toMessage MhSt.noConfusion MhSt.noConfusion
  · exact h

theorem resend (dl : Dl) (state : MhSt) : (dl.resend state).SentBeforeWait :=
  of_sent rfl trivial

theorem messageHSmErrorHandling10 (h : dl.SentBeforeWait) :
    dl.messageHSmErrorHandling10.SentBeforeWait := by
  unfold Dl.messageHSmErrorHandling10
  split_ifs
  · exact toMessage MhSt.noConfusion MhSt.noConfusion
  · exact resend dl _
  · exact h

theorem messageHSmOperate12 (dl : Dl) : dl.messageHSmOperate12.SentBeforeWait := by
  unfold Dl.messageHSmOperate12
  split_ifs
  · exact toMessage MhSt.noConfusion MhSt.noConfusion
  · exact toMessage MhSt.noConfusion MhSt.noConfusion
  · exact toMessage MhSt.noConfusion MhSt.noConfusion
  · exact toMessage MhSt.noConfusion MhSt.noConfusion

theorem messageHSmAwaitReply16 (h : dl.SentBeforeWait) :
    dl.messageHSmAwaitReply16.SentBeforeWait := by
  unfold Dl.messageHSmAwaitReply16
  split_ifs
  · exact toMessage MhSt.noConfusion MhSt.noConfusion
  · exact toMessage MhSt.noConfusion MhSt.noConfusion
  · exact of_sent rfl trivial
  · exact of_state MhSt.noConfusion MhSt.noConfusion
  · exact toMessage MhSt.noConfusion MhSt.noConfusion
  · exact h

theorem messageHSmErrorHandling17 (h : dl.SentBeforeWait) :
    dl.messageHSmErrorHandling17.SentBeforeWait := by
  unfold Dl.messageHSmErrorHandling17
  split_ifs
  · exact toMessage MhSt.noConfusion MhSt.noConfusion
  · exact resend dl _
  · exact toMessage MhSt.noConfusion MhSt.noConfusion
  · exact h

/-- **The message handler.** -/
theorem messageHSm (h : dl.SentBeforeWait) : dl.messageHSm.SentBeforeWait := by
  unfold Dl.messageHSm
  split
  · exact quiet ((Quiet.refl dl).emit id) h
  · unfold Dl.messageHSmAwaitReply1
    split_ifs
    · exact of_state MhSt.noConfusion MhSt.noConfusion
    · exact toMessage MhSt.noConfusion MhSt.noConfusion
  · exact h.messageHSmStartup2
  · exact (toMessage MhSt.noConfusion MhSt.noConfusion).messageHSmAwaitReply4
  · exact h.messageHSmAwaitReply4
  · exact h.messageHSmErrorHandling5
  · exact h.messageHSmPreoperate6
  · exact messageHSmGetOd7 dl
  · exact h.messageHSmAwaitReply9
  · exact h.messageHSmAwaitReply9
  · exact h.messageHSmErrorHandling10
  · exact h
  · exact messageHSmOperate12 dl
  · exact toMessage MhSt.noConfusion MhSt.noConfusion
  · exact toMessage MhSt.noConfusion MhSt.noConfusion
  · exact (toMessage MhSt.noConfusion MhSt.noConfusion).messageHSmAwaitReply16
  · exact h.messageHSmAwaitReply16
  · exact h.messageHSmErrorHandling17

theorem threadClosed : ThreadClosed SentBeforeWait :=
  .of_vars quiet (fun _ h => h) messageHSm
    (fun _ => toMessage MhSt.noConfusion MhSt.noConfusion)
    (fun _ => toMessage MhSt.noConfusion MhSt.noConfusion)
    fun _ => toMessage MhSt.noConfusion MhSt.noConfusion

end SentBeforeWait

end Dl

/-! ### Runs -/

/-- The layer, and whether a message is on its way that has not been replied to. -/
structure Watched where
  dl : Dl := {}
  outstanding : Bool := false

namespace Watched

/-- One input. -/
def step (w : Watched) (i : LinkInput) : Watched where
  dl := w.dl.react i
  outstanding := decide (∃ c ∈ w.dl.callsOf i, c.IsMessage) ||
    w.outstanding && (w.dl.replyOf i).isEmpty

/-- What a step should do. -/
structure Prompt (w : Watched) (i : LinkInput) : Prop where
  /-- The next message follows a reply. -/
  handled : w.dl.AwaitsReply → w.dl.replyOf i ≠ [] → (w.step i).dl.WillSend
  /-- There is something to wait for. -/
  awaited : (w.step i).dl.AwaitsReply → (w.step i).outstanding = true

/-- A reply that is handled does not meet a set event flag while the ISDU handler comes to rest. -/
def FollowsUp (w : Watched) (i : LinkInput) : Prop :=
  w.dl.AwaitsReply → w.dl.replyOf i ≠ [] → ¬ w.dl.FlagAtRest (w.dl.replyOf i)

variable {w : Watched} {i : LinkInput}

/-- A reply in the state that waits for it, taken by the message handler. -/
theorem step_reply (hawaits : w.dl.AwaitsReply) (hreply : w.dl.replyOf i ≠ []) :
    (w.step i).dl.WillSend ↔ ¬ w.dl.FlagAtRest (w.dl.replyOf i) := by
  cases i with
  | isduTransport vl => exact absurd rfl hreply
  | readParam address => exact absurd rfl hreply
  | writeParam address value => exact absurd rfl hreply
  | dl i =>
    cases i with
    | rxrdy octets =>
      have hunlogged : w.dl.unlogged.AwaitsReply := hawaits
      have hstate : (w.dl.unlogged.takeReply (w.dl.replyOf (.dl (.rxrdy octets)))).AwaitsReply :=
        hawaits
      have hempty : (w.dl.replyOf (.dl (.rxrdy octets))).isEmpty ≠ true :=
        fun h => hreply (List.isEmpty_iff.mp h)
      have hstep : (w.step (.dl (.rxrdy octets))).dl =
          (w.dl.unlogged.takeReply (w.dl.replyOf (.dl (.rxrdy octets)))).messageHSm.modVars
            ({ · with dataready := false }) := if_neg hempty
      rw [hstep, Dl.messageHSm_takeReply hunlogged]
      refine (Dl.awaitReply9Received_willSend hstate).trans (not_congr ?_)
      exact and_congr Iff.rfl (and_congr Iff.rfl (Dl.restsAfterReply_takeReply _ _))
    | _ => exact absurd rfl hreply

/-- **The step lemma.** Without a reply nothing that is outstanding is settled, and a wait that
begins has sent a message. -/
theorem awaited_of_followsUp (hinv : w.dl.AwaitsReply → w.outstanding = true)
    (hok : w.FollowsUp i) (hawaits : (w.step i).dl.AwaitsReply) :
    (w.step i).outstanding = true := by
  by_cases hbefore : w.dl.AwaitsReply
  · by_cases hreply : w.dl.replyOf i = []
    · simp [step, hreply, hinv hbefore]
    · exact absurd ((step_reply hbefore hreply).mpr (hok hbefore hreply)) hawaits.not_willSend
  · have hempty : w.dl.unlogged.SentBeforeWait := fun h => absurd h hbefore
    have hsent := Dl.SentBeforeWait.threadClosed.linkStep hempty i hawaits
    exact Bool.or_eq_true_iff.mpr (.inl (decide_eq_true hsent))

theorem prompt_iff_followsUp (hinv : w.dl.AwaitsReply → w.outstanding = true) :
    w.Prompt i ↔ w.FollowsUp i := by
  constructor
  · exact fun h hawaits hreply => (step_reply hawaits hreply).mp (h.handled hawaits hreply)
  · exact fun h => ⟨fun hawaits hreply => (step_reply hawaits hreply).mpr (h hawaits hreply),
      awaited_of_followsUp hinv h⟩

/-- **When the message handler always goes on**, over every sequence of inputs: exactly when no
reply meets a set event flag while the ISDU handler comes to rest. -/
theorem prompt_iff (is : List LinkInput) :
    Runs.Admissible step Prompt {} is ↔ Runs.Admissible step FollowsUp {} is :=
  Runs.admissible_iff_of_invariant (I := fun w => w.dl.AwaitsReply → w.outstanding = true)
    (fun _ _ hinv => prompt_iff_followsUp hinv) (fun _ _ _ hprompt => hprompt.awaited)
    (fun h => absurd h (by decide)) is

/-! ### A reply after which nothing follows -/

/-- A check/stat octet with the event flag is received in OPERATE, the port goes back to
PREOPERATE, and a message is sent and answered there. -/
def flaggedReply : List LinkInput :=
  OdRun.eventInOperate ++ OdRun.intoPreoperate 1 ++
    [.readParam 5, .dl .mh, .dl .timeout, .dl (.rxrdy [0x55, 0x00])]

/-- **A handler that waits for nothing.** The reply has no event flag; the flag that was received in
OPERATE is still set, and the message handler stays in RESPONSE_8. -/
theorem waits_flaggedReply :
    (Runs.run step {} flaggedReply).dl.messageHandler.state = .response8 ∧
      (Runs.run step {} flaggedReply).outstanding = false ∧
      ¬ Runs.Admissible step Prompt {} flaggedReply := by
  have hstate : (Runs.run step {} flaggedReply).dl.messageHandler.state = .response8 := by
    decide +kernel
  have hidle : (Runs.run step {} flaggedReply).outstanding = false := by decide +kernel
  refine ⟨hstate, hidle, fun h => ?_⟩
  have hawaited := (Runs.reaches_run h).invariant
    (fun w => w.dl.AwaitsReply → w.outstanding = true) (fun h => absurd h (by decide))
    fun _ _ _ hprompt => hprompt.awaited
  exact Bool.noConfusion (hidle.symm.trans (hawaited (.inl hstate)))

end Watched

end IolHat
