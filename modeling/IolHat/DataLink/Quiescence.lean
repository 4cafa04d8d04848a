import IolHat.DataLink.IsduTransmission
import IolHat.DataLink.Output
import IolHat.Lib.Run

/-!
# Leaving communication

When communication is lost or the port is deactivated, the mode handler writes the command
INACTIVE to each of the other handlers and calls its state machine once
(`iolink_dl_mode_h_sm_goto_idle`). A handler that does not stop in this one call keeps its state
into the next start.

For each handler this module says from which of its states it stops. The conditions are collected
in `Dl.Stops`, and `quiesced_iff_stops` shows that they are exact: the handlers are left in the
states `iolink_dl_reset` would leave them in if and only if all of them stop.
-/

namespace IolHat

/-- The states of the handlers, and what the message handler has to transfer. -/
structure HandlerStates where
  od : OdhSt := .inactive0
  isdu : IsduhSt := .inactive0
  cmd : CmdhSt := .inactive0
  event : EvhSt := .inactive0
  pd : PdhSt := .inactive0
  message : MhSt := .inactive0
  rwcmd : MHRWCmd := .none
  deriving DecidableEq

namespace Dl

/-- The handler states of a data link layer. -/
def handlerStates (dl : Dl) : HandlerStates where
  od := dl.odHandler.state
  isdu := dl.isduHandler.state
  cmd := dl.cmdHandler.state
  event := dl.eventHandler.state
  pd := dl.pdHandler.state
  message := dl.messageHandler.state
  rwcmd := dl.messageHandler.rwcmd

/-- After a reset every handler is inactive. -/
theorem reset_handlerStates (dl : Dl) : dl.reset.handlerStates = {} := rfl

/-! ### The conditions -/

/-- The ISDU handler has been told that its service is over. -/
def Interrupted (dl : Dl) : Prop :=
  dl.messageHandler.rwcmd = .isduabort ∨ dl.modeHandler.mhinfo = .comlost

/-- A device message is taken for the beginning of a response, and is none. -/
def RefusesSegment (dl : Dl) : Prop :=
  dl.odHandler.trigger = .deviceMessage ∧
    dl.storeSegment.isduHandler.isduData.get 0 ≠ (iserviceNoService <<< 4) ||| 0x01 ∧
    (dl.storeSegment.isduHandler.isduData.get 0 = 0 ∨ dl.storeSegment.validIsduHeader = false)

/-- The ISDU handler stops. -/
def IsduStops (dl : Dl) : Prop :=
  match dl.isduHandler.state with
  | .inactive0 | .idle1 | .isduerror4 => True
  | .isdurequest2 | .isduresponse5 => dl.Interrupted
  | .isduwait3 => dl.Interrupted ∨ dl.isduTimerElapsed = true ∨ dl.RefusesSegment

/-- The event handler stops. -/
def EventStops (dl : Dl) : Prop :=
  match dl.eventHandler.state with
  | .inactive0 | .idle1 => True
  | .readevent2 => dl.modeHandler.mhinfo = .comlost
  | .signalevent3 | .eventconfirmation4 => False

/-- The message handler stops with nothing left to transfer. -/
def MessageStops (dl : Dl) : Prop :=
  match dl.messageHandler.state with
  | .inactive0 | .preoperate6 | .operate12 | .response15 | .awReply16 =>
    dl.messageHandler.rwcmd = .none
  | .awReply1 => dl.vars.baudrate = .none ∧ dl.messageHandler.rwcmd = .none
  | .errorhandling5 => maxRetry ≤ dl.messageHandler.retry ∧
      (dl.messageHandler.rwcmd = .none ∨ dl.messageHandler.rwcmd = .read ∨
        dl.messageHandler.rwcmd = .write)
  | .errorhandling10 | .errorhandling17 => maxRetry ≤ dl.messageHandler.retry
  | .startup2 | .response3 | .awReply4 | .getod7 | .response8 | .awReply9 | .checkhandler11
  | .getpd13 | .getod14 => False

/-- The PD handler stops. It is told to in OPERATE only. -/
def PdStops (dl : Dl) : Prop :=
  if dl.modeHandler.state = .operate4 then
    dl.pdHandler.state = .pdsingle1 → dl.pdHandler.trigger = .none
  else dl.pdHandler.state = .inactive0

/-- The handlers that are told to stop in every mode stop. -/
structure HandlersStop (dl : Dl) : Prop where
  od : dl.odHandler.state ≠ .command2
  isdu : dl.IsduStops
  cmd : dl.cmdHandler.state ≠ .mastercommand2
  event : dl.EventStops
  message : dl.MessageStops

/-- All handlers stop. -/
structure Stops (dl : Dl) : Prop extends HandlersStop dl where
  pd : dl.PdStops

/-! ### The OD handler -/

/-- In COMMAND_2 the command handler's state is set in place of the OD handler's. -/
theorem ohConf_inactive (dl : Dl) : dl.ohConf .inactive =
    if dl.odHandler.state = .command2 then
      (dl.modOd ({ · with ohcmd := .inactive })).modCmd ({ · with state := .inactive0 })
    else dl.modOd ({ · with ohcmd := .inactive, state := .inactive0 }) := by
  cases hs : dl.odHandler.state with
  | inactive0 => simp [ohConf, odHSm, hs, odHSmInactive0, modOd]
  | isdu1 => simp [ohConf, odHSm, hs, odHSmIsdu1, modOd]
  | command2 => simp [ohConf, odHSm, hs, odHSmCommand2, modOd]
  | event3 => simp [ohConf, odHSm, hs, odHSmEvent3, modOd]

/-! ### The ISDU handler -/

/-- What the ISDU handler leaves alone. -/
theorem isduHSm_kept (dl : Dl) : dl.isduHSm.cmdHandler = dl.cmdHandler ∧
    dl.isduHSm.eventHandler = dl.eventHandler ∧
    dl.isduHSm.odHandler.state = dl.odHandler.state := by
  have hclosed : IsduClosed fun d : Dl => d.cmdHandler = dl.cmdHandler ∧
      d.eventHandler = dl.eventHandler ∧ d.odHandler.state = dl.odHandler.state := by
    refine ⟨fun _ h => h, fun _ h => h, fun _ h => h, fun _ _ h => h, ?_⟩
    rintro d rw ch a len p ⟨hcmd, hevent, hod⟩
    obtain ⟨_, _, _, _, hreq⟩ := d.odReq_frame rw ch a len p
    rw [hreq]
    exact ⟨hcmd, hevent, hod⟩
  exact hclosed.isduHSm ⟨rfl, rfl, rfl⟩

/-- A service that ends while the handler is inactive. -/
theorem enterIsduerror4_of_inactive (dl : Dl) (hcmd : dl.isduHandler.ihcmd = .inactive) :
    dl.isduHSmEnterIsduerror4.isduHandler.state = .inactive0 ∧
      dl.isduHSmEnterIsduerror4.messageHandler = dl.messageHandler := by
  rw [isduHSmEnterIsduerror4, if_pos hcmd]
  exact ⟨rfl, rfl⟩

/-- A response that has begun keeps the handler active. -/
theorem isduWait3Response_state (dl : Dl) :
    dl.isduWait3Response.isduHandler.state ≠ .inactive0 := by
  unfold isduWait3Response
  dsimp only
  split_ifs
  · exact IsduhSt.noConfusion
  · exact IsduhSt.noConfusion

/-- The first octets of a response, in a handler told to stop. -/
theorem isduWait3Stored_of_inactive (dl : Dl) (hcmd : dl.isduHandler.ihcmd = .inactive)
    (hstate : dl.isduHandler.state = .isduwait3) :
    (dl.isduWait3Stored.isduHandler.state = .inactive0 ↔
        dl.isduHandler.isduData.get 0 ≠ (iserviceNoService <<< 4) ||| 0x01 ∧
          (dl.isduHandler.isduData.get 0 = 0 ∨ dl.validIsduHeader = false)) ∧
      (dl.isduWait3Stored.isduHandler.state = .inactive0 →
        dl.isduWait3Stored.messageHandler = dl.messageHandler) := by
  have hrefused := dl.isduTimerReset.enterIsduerror4_of_inactive hcmd
  unfold isduWait3Stored
  split_ifs with hbusy hzero hvalid
  · refine ⟨iff_of_false ?_ fun h => h.1 hbusy, fun _ => rfl⟩
    rw [hstate]
    exact IsduhSt.noConfusion
  · exact ⟨iff_of_true hrefused.1 ⟨hbusy, .inl hzero⟩, fun _ => hrefused.2⟩
  · refine ⟨iff_of_false dl.isduWait3Response_state ?_,
      fun h => absurd h dl.isduWait3Response_state⟩
    rintro ⟨-, h | h⟩
    · exact hzero h
    · rw [h] at hvalid
      exact Bool.noConfusion hvalid
  · exact ⟨iff_of_true hrefused.1 ⟨hbusy, .inr (Bool.eq_false_iff.mpr hvalid)⟩,
      fun _ => hrefused.2⟩

/-- **The ISDU handler**, told to stop. -/
theorem isduHSm_of_inactive (dl : Dl) (hcmd : dl.isduHandler.ihcmd = .inactive) :
    (dl.isduHSm.isduHandler.state = .inactive0 ↔ dl.IsduStops) ∧
      (dl.isduHSm.isduHandler.state = .inactive0 →
        dl.isduHSm.messageHandler = dl.messageHandler) := by
  have herror := dl.enterIsduerror4_of_inactive hcmd
  have hstays : ∀ {stops : Prop} (d : Dl), d.isduHandler.state ≠ .inactive0 → ¬ stops →
      (d.isduHandler.state = .inactive0 ↔ stops) ∧
        (d.isduHandler.state = .inactive0 → d.messageHandler = dl.messageHandler) :=
    fun d hd hnot => ⟨iff_of_false hd hnot, fun h => absurd h hd⟩
  unfold IsduStops
  cases hs : dl.isduHandler.state with
  | inactive0 =>
    have hstep : dl.isduHSm = dl := by simp [isduHSm, hs, isduHSmInactive0, hcmd]
    rw [hstep]
    exact ⟨iff_of_true hs trivial, fun _ => rfl⟩
  | idle1 =>
    simp only [isduHSm, hs, isduHSmIdle1, if_pos hcmd, isduIdle1Deactivate]
    split_ifs
    · exact ⟨iff_of_true rfl trivial, fun _ => rfl⟩
    · exact ⟨iff_of_true rfl trivial, fun _ => rfl⟩
  | isdurequest2 =>
    simp only [isduHSm, hs, isduHSmIsduRequest2]
    split_ifs with hint
    · exact ⟨iff_of_true herror.1 hint, fun _ => herror.2⟩
    all_goals
      refine hstays _ ?_ hint
      cases dl.odHandler.trigger <;> simp [hs]
  -- The segment is stored before anything is looked at, and the answer is judged last.
  | isduwait3 =>
    have hstored := dl.storeSegment.isduWait3Stored_of_inactive hcmd hs
    have hreset := dl.isduTimerReset.enterIsduerror4_of_inactive hcmd
    simp only [isduHSm, hs, isduHSmIsduWait3]
    split_ifs with habort htimer
    · exact ⟨iff_of_true hreset.1 (.inl (.inl habort)), fun _ => hreset.2⟩
    · exact ⟨iff_of_true herror.1 (htimer.elim (.inr ∘ .inl) (.inl ∘ .inr)), fun _ => herror.2⟩
    · obtain ⟨hrunning, hcom⟩ := not_or.mp htimer
      have hrefuses : (dl.Interrupted ∨ dl.isduTimerElapsed = true ∨ dl.RefusesSegment) ↔
          dl.RefusesSegment :=
        ⟨fun h => (h.resolve_left (not_or.mpr ⟨habort, hcom⟩)).resolve_left hrunning, .inr ∘ .inr⟩
      rw [hrefuses]
      cases ht : dl.odHandler.trigger with
      | deviceMessage =>
        exact ⟨hstored.1.trans ⟨fun h => ⟨ht, h⟩, And.right⟩, hstored.2⟩
      | masterMessage =>
        exact hstays _ (by simp [hs]) fun h => Trigger.noConfusion (ht.symm.trans h.1)
      | none =>
        exact hstays _ (by simp [hs]) fun h => Trigger.noConfusion (ht.symm.trans h.1)
  | isduerror4 =>
    simp only [isduHSm, hs, isduHSmIsduError4, if_pos hcmd]
    exact ⟨iff_of_true rfl trivial, fun _ => rfl⟩
  | isduresponse5 =>
    simp only [isduHSm, hs, isduHSmIsduResponse5]
    split_ifs with hint
    · exact ⟨iff_of_true herror.1 hint, fun _ => herror.2⟩
    · refine hstays _ ?_ hint
      cases dl.odHandler.trigger with
      | masterMessage => simp [hs]
      | none => simp [hs]
      | deviceMessage =>
        dsimp only
        unfold isduResponse5Stored
        dsimp only
        split_ifs
        · exact IsduhSt.noConfusion
        · change dl.isduHandler.state ≠ .inactive0
          rw [hs]
          exact IsduhSt.noConfusion

/-! ### The event handler -/

@[simp]
theorem markSlot_state (status : Octet) (h : EventHandler) (k : ℕ) :
    (markSlot status h k).state = h.state := by
  unfold markSlot
  split_ifs
  · rfl
  · rfl
  · rfl

@[simp]
theorem nextSlot_state (status : Octet) (n : ℕ) (h : EventHandler) :
    (nextSlot status n h).state = h.state := by
  induction n generalizing h with
  | zero => rfl
  | succ n ih =>
    unfold nextSlot
    dsimp only
    split_ifs
    · rfl
    · exact ih _

theorem evHSmSignalEvent3_state (dl : Dl) : dl.evHSmSignalEvent3.eventHandler.state = .idle1 := rfl

/-- A status code keeps the handler active. -/
theorem evHSmReadEvent2_state {dl : Dl} (hstate : dl.eventHandler.state = .readevent2)
    (hcom : dl.modeHandler.mhinfo ≠ .comlost) :
    dl.evHSmReadEvent2.eventHandler.state ≠ .inactive0 := by
  have hread : ∀ h : EventHandler, h.state = .readevent2 → h.state ≠ .inactive0 := by
    intro h hs
    rw [hs]
    exact EvhSt.noConfusion
  unfold evHSmReadEvent2
  rw [if_neg hcom]
  cases dl.odHandler.trigger with
  | none => exact hread _ hstate
  | masterMessage =>
    refine hread _ ?_
    rw [odReq_eventHandler]
    exact hstate
  | deviceMessage =>
    dsimp only
    split_ifs
    · unfold evHSmReadEvent2ForDeviceStatusCode
      dsimp only
      split_ifs
      · refine hread _ ?_
        have hfold : ∀ (slots : List ℕ) (h : EventHandler),
            (slots.foldl (markSlot (dl.rxbuffer.get 0)) h).state = h.state := by
          intro slots h
          exact List.foldlRecOn (motive := fun h' => h'.state = h.state) slots _ rfl
            fun h' hs k _ => (markSlot_state _ h' k).trans hs
        exact (hfold _ _).trans hstate
      · rw [evHSmSignalEvent3_state]
        exact EvhSt.noConfusion
    · unfold evHSmReadEvent2ForDeviceEventMemoryByte
      dsimp only
      split
      · exact hread _ hstate
      · exact hread _ hstate
      · unfold eventRead
        dsimp only
        split_ifs
        · rw [evHSmSignalEvent3_state]
          exact EvhSt.noConfusion
        · refine hread _ ?_
          exact (nextSlot_state _ _ _).trans hstate
      · exact hread _ hstate

/-- **The event handler**, told to stop. -/
theorem evHSm_of_inactive (dl : Dl) (hcmd : dl.eventHandler.ehcmd = .inactive) :
    dl.evHSm.eventHandler.state = .inactive0 ↔ dl.EventStops := by
  unfold EventStops
  cases hs : dl.eventHandler.state with
  | inactive0 => simp [evHSm, hs, evHSmInactive0, hcmd]
  | idle1 => simp [evHSm, hs, evHSmIdle1, hcmd]
  | readevent2 =>
    simp only [evHSm, hs]
    rcases Decidable.em (dl.modeHandler.mhinfo = .comlost) with hcom | hcom
    · rw [evHSmReadEvent2, if_pos hcom]
      exact iff_of_true rfl hcom
    · exact iff_of_false (evHSmReadEvent2_state hs hcom) hcom
  | signalevent3 => simp [evHSm, hs]
  | eventconfirmation4 => simp [evHSm, hs]

/-! ### The command handler -/

/-- **The command handler**, told to stop. -/
theorem chConf_inactive (dl : Dl) :
    ((dl.chConf .inactive).cmdHandler.state = .inactive0 ↔
        dl.cmdHandler.state ≠ .mastercommand2) ∧
      (dl.chConf .inactive).eventHandler = dl.eventHandler := by
  cases hs : dl.cmdHandler.state with
  | inactive0 => simp [chConf, cmdHSm, hs]
  | idle1 => simp [chConf, cmdHSm, hs, cmdHSmIdle1]
  | mastercommand2 => simp [chConf, cmdHSm, hs]

/-! ### The message handler -/

theorem odHSm_messageState (dl : Dl) :
    dl.odHSm.messageHandler.state = dl.messageHandler.state := by
  obtain ⟨c, hc⟩ := ((outputKept_closed dl).odHSm (.refl dl)).message
  rw [hc]
  rfl

/-- In STARTUP_2 the handler does not look at the command INACTIVE. -/
private theorem startup2_state {dl : Dl} (hs : dl.messageHandler.state = .startup2) :
    dl.messageHSmStartup2.messageHandler.state ≠ .inactive0 := by
  unfold messageHSmStartup2
  dsimp only
  split_ifs
  · exact MhSt.noConfusion
  · exact MhSt.noConfusion
  · exact MhSt.noConfusion
  · rw [hs]
    exact MhSt.noConfusion

/-- A state in which an answer is awaited is left for another active state only. -/
private theorem awaitReply4_state {dl : Dl} (hs : dl.messageHandler.state = .awReply4) :
    dl.messageHSmAwaitReply4.messageHandler.state ≠ .inactive0 := by
  unfold messageHSmAwaitReply4
  dsimp only
  split_ifs
  · unfold confirmStartupAccess
    split
    · exact MhSt.noConfusion
    · exact MhSt.noConfusion
    · exact MhSt.noConfusion
  · exact MhSt.noConfusion
  · rw [hs]
    exact MhSt.noConfusion

private theorem awaitReply9_state {dl : Dl}
    (hs : dl.messageHandler.state = .awReply9 ∨ dl.messageHandler.state = .response8) :
    dl.messageHSmAwaitReply9.messageHandler.state ≠ .inactive0 := by
  have hactive : ∀ d : Dl, d.messageHandler.state = dl.messageHandler.state →
      d.messageHandler.state ≠ .inactive0 := by
    intro d hd
    rcases hs with hs | hs
    · rw [hd, hs]
      exact MhSt.noConfusion
    · rw [hd, hs]
      exact MhSt.noConfusion
  unfold messageHSmAwaitReply9
  split_ifs
  · unfold awaitReply9Received
    dsimp only
    split_ifs
    · exact MhSt.noConfusion
    · exact MhSt.noConfusion
    · exact hactive _ (odHSm_messageState _)
    · exact MhSt.noConfusion
  · exact MhSt.noConfusion
  · exact hactive _ rfl

/-- **The message handler**, told to stop. -/
theorem messageHSm_of_inactive (dl : Dl) (hcmd : dl.messageHandler.mhcmd = .inactive) :
    (dl.messageHSm.messageHandler.state = .inactive0 ∧
        dl.messageHSm.messageHandler.rwcmd = .none ↔ dl.MessageStops) ∧
      (dl.MessageStops → dl.messageHSm.handlerStates =
        { dl.handlerStates with message := .inactive0, rwcmd := .none }) := by
  have hbusy : ∀ d : Dl, d.messageHandler.state ≠ .inactive0 →
      (d.messageHandler.state = .inactive0 ∧ d.messageHandler.rwcmd = .none ↔ False) ∧
        (False → d.handlerStates =
          { dl.handlerStates with message := .inactive0, rwcmd := .none }) :=
    fun d hd => ⟨iff_of_false (fun h => hd h.1) id, False.elim⟩
  -- the handler stops in one step that leaves `rwcmd` and the other handlers alone
  have hstops : ∀ d : Dl, d.messageHandler.rwcmd = dl.messageHandler.rwcmd →
      d.messageHandler.state = .inactive0 → d.odHandler = dl.odHandler →
      d.isduHandler = dl.isduHandler → d.cmdHandler = dl.cmdHandler →
      d.eventHandler = dl.eventHandler → d.pdHandler = dl.pdHandler →
      (d.messageHandler.state = .inactive0 ∧ d.messageHandler.rwcmd = .none ↔
          dl.messageHandler.rwcmd = .none) ∧
        (dl.messageHandler.rwcmd = .none → d.handlerStates =
          { dl.handlerStates with message := .inactive0, rwcmd := .none }) := by
    intro d hrw hstate hod hisdu hcmd hevent hpd
    refine ⟨⟨fun h => hrw ▸ h.2, fun h => ⟨hstate, hrw.trans h⟩⟩, fun h => ?_⟩
    rw [handlerStates, hod, hisdu, hcmd, hevent, hpd, hstate, hrw, h]
    rfl
  unfold MessageStops
  cases hs : dl.messageHandler.state with
  | inactive0 =>
    simp only [messageHSm, hs]
    exact hstops _ rfl hs rfl rfl rfl rfl rfl
  | awReply1 =>
    simp only [messageHSm, hs, messageHSmAwaitReply1]
    rcases Decidable.em (dl.vars.baudrate = .none) with hbaud | hbaud
    · rw [if_neg (not_not.mpr hbaud)]
      simp only [hbaud, true_and]
      exact hstops _ rfl rfl rfl rfl rfl rfl rfl
    · rw [if_pos hbaud]
      simp only [hbaud, false_and]
      exact hbusy _ MhSt.noConfusion
  | startup2 =>
    simp only [messageHSm, hs]
    exact hbusy _ (startup2_state hs)
  | response3 =>
    simp only [messageHSm, hs, messageHSmResponse3]
    exact hbusy _ (awaitReply4_state rfl)
  | awReply4 =>
    simp only [messageHSm, hs]
    exact hbusy _ (awaitReply4_state hs)
  | errorhandling5 =>
    simp only [messageHSm, hs, messageHSmErrorHandling5, ge_iff_le]
    split_ifs with hretry hdue
    · simp only [hretry, true_and, confirmStartupAccess]
      cases hrw : dl.messageHandler.rwcmd <;>
        simp [hrw, toMessage, mhInfoInd, handlerStates]
    · simp only [hretry, false_and]
      exact hbusy _ MhSt.noConfusion
    · simp only [hretry, false_and]
      exact hbusy _ (by rw [hs]; exact MhSt.noConfusion)
  | preoperate6 =>
    simp only [messageHSm, hs, messageHSmPreoperate6, hcmd, reduceCtorEq, if_false,
      if_true]
    exact hstops _ rfl rfl rfl rfl rfl rfl rfl
  | getod7 =>
    simp only [messageHSm, hs]
    exact hbusy _ MhSt.noConfusion
  | response8 =>
    simp only [messageHSm, hs]
    exact hbusy _ (awaitReply9_state (.inr hs))
  | awReply9 =>
    simp only [messageHSm, hs]
    exact hbusy _ (awaitReply9_state (.inl hs))
  | errorhandling10 =>
    simp only [messageHSm, hs, messageHSmErrorHandling10, ge_iff_le]
    split_ifs with hretry hdue
    · refine ⟨iff_of_true ⟨rfl, rfl⟩ hretry, fun _ => ?_⟩
      unfold writeMasterCommand confirmPreoperateAccess
      dsimp only
      split_ifs <;> split <;> rfl
    · exact (propext (iff_false_intro hretry)) ▸ hbusy _ MhSt.noConfusion
    · refine (propext (iff_false_intro hretry)) ▸ hbusy _ ?_
      rw [hs]
      exact MhSt.noConfusion
  | checkhandler11 =>
    have hstep : dl.messageHSm = dl := by simp only [messageHSm, hs]
    rw [hstep]
    exact hbusy dl (by rw [hs]; exact MhSt.noConfusion)
  | operate12 =>
    simp only [messageHSm, hs, messageHSmOperate12, hcmd, reduceCtorEq, if_false, if_true]
    exact hstops _ rfl rfl rfl rfl rfl rfl rfl
  | getpd13 =>
    simp only [messageHSm, hs]
    exact hbusy _ MhSt.noConfusion
  | getod14 =>
    simp only [messageHSm, hs]
    exact hbusy _ MhSt.noConfusion
  | response15 =>
    have hcmd' : (dl.toMessage .awReply16).messageHandler.mhcmd = .inactive := hcmd
    simp only [messageHSm, hs, messageHSmResponse15, messageHSmAwaitReply16, hcmd', reduceCtorEq,
      if_false, if_true]
    exact hstops _ rfl rfl rfl rfl rfl rfl rfl
  | awReply16 =>
    simp only [messageHSm, hs, messageHSmAwaitReply16, hcmd, reduceCtorEq, if_false, if_true]
    exact hstops _ rfl rfl rfl rfl rfl rfl rfl
  | errorhandling17 =>
    simp only [messageHSm, hs, messageHSmErrorHandling17, ge_iff_le]
    split_ifs with hretry htcyc hready
    · exact ⟨iff_of_true ⟨rfl, rfl⟩ hretry, fun _ => rfl⟩
    · exact (propext (iff_false_intro hretry)) ▸ hbusy _ MhSt.noConfusion
    · exact (propext (iff_false_intro hretry)) ▸ hbusy _ MhSt.noConfusion
    · refine (propext (iff_false_intro hretry)) ▸ hbusy _ ?_
      rw [hs]
      exact MhSt.noConfusion

/-! ### The PD handler -/

/-- The PD handler has been told to stop, and has not been called yet. -/
def phStop (dl : Dl) : Dl :=
  (dl.modPd ({ · with phcmd := .inactive })).modMessage ({ · with interleave := .none })

theorem phConf_inactive_eq (dl : Dl) : dl.phConf .inactive = dl.phStop.pdHSm := rfl

/-- What is left of the layer when the PD handler has been told to stop. -/
theorem phConf_inactive_frame (dl : Dl) : ∃ h tx out fs, dl.phConf .inactive =
    { dl.phStop with pdHandler := h, txbuffer := tx, out := out, faults := fs } := by
  rw [phConf_inactive_eq]
  obtain ⟨d, hd⟩ : ∃ d, d = dl.phStop := ⟨_, rfl⟩
  have hcmd : d.pdHandler.phcmd = .inactive := by rw [hd]; rfl
  rw [← hd]
  unfold pdHSm
  split
  · unfold pdHSmInactive0
    rw [hcmd]
    dsimp only
    split_ifs
    · exact ⟨_, _, _, _, rfl⟩
    · exact ⟨_, _, _, _, rfl⟩
  · unfold pdHSmPdSingle1
    split
    · obtain ⟨_, _, hreq⟩ := (d.modPd ({ · with trigger := .none })).pdReq_frame
        d.pdHandler.pdRxlen (some (d.modPd ({ · with trigger := .none })).pdoutPtr) 0
        d.pdHandler.pdTxlen
      exact ⟨_, _, _, _, hreq⟩
    · exact ⟨_, _, _, _, rfl⟩
    · rw [if_pos hcmd]
      exact ⟨_, _, _, _, rfl⟩
  · unfold pdHSmPdInInterleave2
    rw [if_pos hcmd]
    exact ⟨_, _, _, _, rfl⟩
  · unfold pdHSmPdOutInterleave3
    rw [if_pos hcmd]
    exact ⟨_, _, _, _, rfl⟩

/-- **The PD handler**, told to stop: in PDSINGLE_1 a trigger that is still standing is taken
first. -/
theorem phConf_inactive_state (dl : Dl) : (dl.phConf .inactive).pdHandler.state = .inactive0 ↔
    (dl.pdHandler.state = .pdsingle1 → dl.pdHandler.trigger = .none) := by
  rw [phConf_inactive_eq]
  obtain ⟨d, hd⟩ : ∃ d, d = dl.phStop := ⟨_, rfl⟩
  have hcmd : d.pdHandler.phcmd = .inactive := by rw [hd]; rfl
  have hstate : dl.pdHandler.state = d.pdHandler.state := by rw [hd]; rfl
  have htrigger : dl.pdHandler.trigger = d.pdHandler.trigger := by rw [hd]; rfl
  rw [← hd, hstate, htrigger]
  cases hs : d.pdHandler.state with
  | inactive0 =>
    refine iff_of_true ?_ fun h => PdhSt.noConfusion h
    simp only [pdHSm, hs, pdHSmInactive0, hcmd]
    split_ifs
    · exact hs
    · exact hs
  | pdsingle1 =>
    simp only [pdHSm, hs, pdHSmPdSingle1]
    cases ht : d.pdHandler.trigger with
    | none => simp [hcmd]
    | deviceMessage => simp [hs]
    | masterMessage =>
      obtain ⟨_, _, hreq⟩ := (d.modPd ({ · with trigger := .none })).pdReq_frame
        d.pdHandler.pdRxlen (some (d.modPd ({ · with trigger := .none })).pdoutPtr) 0
        d.pdHandler.pdTxlen
      have hstays := congrArg (fun d' : Dl => d'.pdHandler.state) hreq
      refine iff_of_false (fun h => ?_) fun h => Trigger.noConfusion (h trivial)
      exact PdhSt.noConfusion ((hs.symm.trans hstays.symm).trans h)
  | pdininterleave2 =>
    simp only [pdHSm, hs, pdHSmPdInInterleave2, if_pos hcmd]
    exact iff_of_true rfl fun h => PdhSt.noConfusion h
  | pdoutinterleave3 =>
    simp only [pdHSm, hs, pdHSmPdOutInterleave3, if_pos hcmd]
    exact iff_of_true rfl fun h => PdhSt.noConfusion h

/-! ### The mode handler -/

/-- The handlers after the first four have been told to stop. -/
private structure FourStopped (dl d : Dl) : Prop where
  od : d.odHandler.state = if dl.odHandler.state = .command2 then .command2 else .inactive0
  isdu : d.isduHandler.state = .inactive0 ↔ dl.IsduStops
  cmd : dl.odHandler.state ≠ .command2 →
    (d.cmdHandler.state = .inactive0 ↔ dl.cmdHandler.state ≠ .mastercommand2)
  event : d.eventHandler.state = .inactive0 ↔ dl.EventStops
  pd : d.pdHandler.state = dl.pdHandler.state
  baudrate : d.vars.baudrate = dl.vars.baudrate
  message : d.isduHandler.state = .inactive0 → d.messageHandler = dl.messageHandler

/-- The handler states and what the conditions of the later handlers look at, after the OD handler
has been told to stop. -/
private theorem ohConf_inactive_fields (dl : Dl) :
    (dl.ohConf .inactive).odHandler.state =
        (if dl.odHandler.state = .command2 then .command2 else .inactive0) ∧
      (dl.odHandler.state ≠ .command2 →
        (dl.ohConf .inactive).cmdHandler.state = dl.cmdHandler.state) ∧
      (dl.ohConf .inactive).eventHandler = dl.eventHandler ∧
      (((dl.ohConf .inactive).modIsdu ({ · with ihcmd := .inactive })).IsduStops ↔
        dl.IsduStops) := by
  rw [ohConf_inactive]
  split_ifs with hs
  · exact ⟨hs, fun h => absurd hs h, rfl, Iff.rfl⟩
  · exact ⟨rfl, fun _ => rfl, rfl, Iff.rfl⟩

/-- The event handler leaves the command handler alone. -/
private theorem evHSm_cmdHandler (dl : Dl) : dl.evHSm.cmdHandler = dl.cmdHandler := by
  have hclosed : EventClosed fun d : Dl => d.cmdHandler = dl.cmdHandler := by
    refine ⟨fun _ h => h, fun _ h => h, fun _ h => h, fun _ _ h => h, ?_⟩
    intro d rw ch a len p h
    obtain ⟨_, _, _, _, hreq⟩ := d.odReq_frame rw ch a len p
    rw [hreq]
    exact h
  exact hclosed.evHSm rfl

private theorem fourStopped (dl : Dl) :
    FourStopped dl ((dl.setOhIhEhConfActive .inactive).chConf .inactive) := by
  obtain ⟨hod, hcmd, hevent, hisdu⟩ := dl.ohConf_inactive_fields
  have hkept₁ := (outputKept_closed dl).ohConf (.refl dl) .inactive
  have hmessage₁ : (dl.ohConf .inactive).messageHandler = dl.messageHandler := by
    rw [ohConf_inactive]
    split_ifs
    · rfl
    · rfl
  generalize hd₁ : dl.ohConf .inactive = d₁ at hod hcmd hevent hisdu hkept₁ hmessage₁
  -- the ISDU handler
  obtain ⟨hcmd₂, hevent₂, hod₂⟩ := (d₁.modIsdu ({ · with ihcmd := .inactive })).isduHSm_kept
  obtain ⟨hisdu₂, hmessage₂⟩ := isduHSm_of_inactive
    (d₁.modIsdu ({ · with ihcmd := .inactive })) rfl
  have hkept₂ := (outputKept_closed dl).ihConf hkept₁ .inactive
  have hih : d₁.ihConf .inactive = (d₁.modIsdu ({ · with ihcmd := .inactive })).isduHSm := rfl
  rw [← hih] at hcmd₂ hevent₂ hod₂ hisdu₂ hmessage₂
  generalize hd₂ : d₁.ihConf .inactive = d₂ at hcmd₂ hevent₂ hod₂ hisdu₂ hmessage₂ hkept₂
  -- the event handler
  have hevent₃ := evHSm_of_inactive (d₂.modEvent ({ · with ehcmd := .inactive })) rfl
  have hcmd₃ := (d₂.modEvent ({ · with ehcmd := .inactive })).evHSm_cmdHandler
  have hrequest₃ : d₂.RequestKept (d₂.ehConf .inactive) :=
    (requestKept_closed d₂).ehConf (.refl d₂) .inactive
  have hkept₃ := (outputKept_closed dl).ehConf hkept₂ .inactive
  have heh : d₂.ehConf .inactive = (d₂.modEvent ({ · with ehcmd := .inactive })).evHSm := rfl
  rw [← heh] at hevent₃ hcmd₃
  have hstops₃ : (d₂.modEvent ({ · with ehcmd := .inactive })).EventStops ↔ dl.EventStops := by
    unfold EventStops
    rw [modEvent_eventHandler, modEvent_modeHandler, hevent₂, modIsdu_eventHandler, hevent,
      hkept₂.mode]
  generalize hd₃ : d₂.ehConf .inactive = d₃ at hevent₃ hcmd₃ hrequest₃ hkept₃
  -- the command handler
  obtain ⟨hcmd₄, hevent₄⟩ := d₃.chConf_inactive
  have hrequest₄ : d₃.RequestKept (d₃.chConf .inactive) :=
    (requestKept_closed d₃).chConf (.refl d₃) .inactive
  have hkept₄ := (outputKept_closed dl).chConf hkept₃ .inactive
  have hsum : (dl.setOhIhEhConfActive .inactive).chConf .inactive = d₃.chConf .inactive := by
    rw [← hd₃, ← hd₂, ← hd₁]
    rfl
  rw [hsum]
  refine ⟨?_, ?_, fun hne => ?_, ?_, ?_, by rw [hkept₄.vars], fun h => ?_⟩
  · rw [hrequest₄.od.1, hrequest₃.od.1, hod₂]
    exact hod
  · rw [hrequest₄.isdu, hrequest₃.isdu, hisdu₂]
    exact hisdu
  · rw [hcmd₄, hcmd₃, modEvent_cmdHandler, hcmd₂, modIsdu_cmdHandler, hcmd hne]
  · rw [hevent₄, hevent₃]
    exact hstops₃
  · obtain ⟨_, hpd⟩ := hkept₄.pd
    rw [hpd]
    rfl
  · rw [hrequest₄.isdu, hrequest₃.isdu] at h
    rw [hrequest₄.message, hrequest₃.message, hmessage₂ h]
    exact hmessage₁

/-- Handler states one by one. -/
theorem handlerStates_eq_iff (dl : Dl) : dl.handlerStates = {} ↔
    dl.odHandler.state = .inactive0 ∧ dl.isduHandler.state = .inactive0 ∧
      dl.cmdHandler.state = .inactive0 ∧ dl.eventHandler.state = .inactive0 ∧
      dl.pdHandler.state = .inactive0 ∧ dl.messageHandler.state = .inactive0 ∧
      dl.messageHandler.rwcmd = .none :=
  HandlerStates.mk.injEq .. ▸ Iff.rfl

/-- **`iolink_dl_mode_h_sm_goto_idle`** leaves the handlers as a reset does exactly if they stop
and the PD handler is inactive already. -/
theorem gotoIdle_quiesced_iff (dl : Dl) (mode : MhMode) :
    (dl.modeHSmGotoIdle mode).handlerStates = {} ↔
      dl.HandlersStop ∧ dl.pdHandler.state = .inactive0 := by
  have hfour := dl.fourStopped
  have hlast : (dl.modeHSmGotoIdle mode).handlerStates =
      (((dl.setOhIhEhConfActive .inactive).chConf .inactive).mhConf .inactive).handlerStates := rfl
  rw [hlast]
  generalize (dl.setOhIhEhConfActive .inactive).chConf .inactive = d at hfour
  obtain ⟨hmessage, hrest⟩ := messageHSm_of_inactive
    (d.modMessage ({ · with mhcmd := .inactive })) rfl
  have hmh : d.mhConf .inactive = (d.modMessage ({ · with mhcmd := .inactive })).messageHSm := rfl
  rw [← hmh] at hmessage hrest
  have hstops : d.isduHandler.state = .inactive0 →
      ((d.modMessage ({ · with mhcmd := .inactive })).MessageStops ↔ dl.MessageStops) := by
    intro h
    unfold MessageStops
    rw [modMessage_messageHandler, modMessage_vars, hfour.message h, hfour.baudrate]
  constructor
  · intro h
    obtain ⟨-, -, -, -, -, hstate, hrwcmd⟩ := (handlerStates_eq_iff _).mp h
    have hmsg := hmessage.mp ⟨hstate, hrwcmd⟩
    have hstates : (d.mhConf .inactive).handlerStates =
        { d.handlerStates with message := .inactive0, rwcmd := .none } := hrest hmsg
    rw [hstates] at h
    obtain ⟨hod, hisdu, hcmd, hevent, hpd, -, -⟩ := (HandlerStates.mk.injEq ..).mp h
    -- An OD handler in Command_2 has no row for its deactivation.
    have hne : dl.odHandler.state ≠ .command2 := by
      intro hc
      have hstuck := hfour.od
      rw [if_pos hc] at hstuck
      exact OdhSt.noConfusion (hstuck.symm.trans hod)
    exact ⟨⟨hne, hfour.isdu.mp hisdu, (hfour.cmd hne).mp hcmd, hfour.event.mp hevent,
      (hstops hisdu).mp hmsg⟩, hfour.pd.symm.trans hpd⟩
  · rintro ⟨h, hpd⟩
    have hisdu := hfour.isdu.mpr h.isdu
    have hstates : (d.mhConf .inactive).handlerStates =
        { d.handlerStates with message := .inactive0, rwcmd := .none } :=
      hrest ((hstops hisdu).mpr h.message)
    have hod := hfour.od
    rw [if_neg h.od] at hod
    rw [hstates]
    exact (HandlerStates.mk.injEq ..).mpr ⟨hod, hisdu, (hfour.cmd h.od).mpr h.cmd,
      hfour.event.mpr h.event, hfour.pd.trans hpd, rfl, rfl⟩

/-! ### When the mode handler goes to IDLE_0 -/

private theorem modeState_closed (s : MdhSt) :
    MessageClosed fun dl => dl.modeHandler.state = s where
  odHSm {dl} h := by
    rw [((outputKept_closed dl).odHSm (.refl dl)).mode]
    exact h
  pdHSm {dl} h := by
    rw [(RequestKept.pdHSm (.refl dl)).mode]
    exact h
  setMseqChange h := by
    unfold Dl.setMseqChange
    dsimp only
    split_ifs <;> exact h
  writeMasterCommand {dl} errorinfo h := by
    rw [((outputKept_closed dl).writeMasterCommand (.refl dl) errorinfo).mode]
    exact h
  message _ _ h := h
  interleave _ _ h := h
  odTrigger _ h := h
  pdTrigger _ h := h
  eventFlag _ h := h
  mhinfo _ h := h
  vars _ _ h := h
  objects _ h := h
  emit _ h := h
  access _ _ h := h

/-- The message handler reports to the mode handler, and does not change its state. -/
theorem messageHSm_modeState (dl : Dl) :
    dl.messageHSm.modeHandler.state = dl.modeHandler.state := (modeState_closed _).messageHSm rfl

/-- The conditions, after the PD handler has been told to stop. -/
private theorem handlersStop_phConf (dl : Dl) :
    (dl.phConf .inactive).HandlersStop ↔ dl.HandlersStop := by
  obtain ⟨_, _, _, _, hframe⟩ := dl.phConf_inactive_frame
  rw [hframe]
  exact ⟨fun h => ⟨h.od, h.isdu, h.cmd, h.event, h.message⟩,
    fun h => ⟨h.od, h.isdu, h.cmd, h.event, h.message⟩⟩

/-- In OPERATE the PD handler is told to stop first. -/
private theorem operate4_quiesced_iff {dl : Dl} (hs : dl.modeHandler.state = .operate4)
    (mode : MhMode) :
    ((dl.phConf .inactive).modeHSmGotoIdle mode).handlerStates = {} ↔ dl.Stops := by
  rw [gotoIdle_quiesced_iff, handlersStop_phConf, phConf_inactive_state]
  refine ⟨fun h => ⟨h.1, ?_⟩, fun h => ⟨h.toHandlersStop, ?_⟩⟩
  · rw [PdStops, if_pos hs]
    exact h.2
  · have hpd := h.pd
    rw [PdStops, if_pos hs] at hpd
    exact hpd

/-- In the other modes it is not told to stop. -/
private theorem other_quiesced_iff {dl : Dl} (hs : dl.modeHandler.state ≠ .operate4)
    (mode : MhMode) : (dl.modeHSmGotoIdle mode).handlerStates = {} ↔ dl.Stops := by
  rw [gotoIdle_quiesced_iff]
  refine ⟨fun h => ⟨h.1, ?_⟩, fun h => ⟨h.toHandlersStop, ?_⟩⟩
  · rw [PdStops, if_neg hs]
    exact h.2
  · have hpd := h.pd
    rw [PdStops, if_neg hs] at hpd
    exact hpd

private theorem modeHSm_quiesced_iff {dl : Dl} (hleave : dl.modeHandler.state ≠ .idle0)
    (hidle : dl.modeHSm.modeHandler.state = .idle0) :
    dl.modeHSm.handlerStates = {} ↔ dl.Stops := by
  cases hs : dl.modeHandler.state with
  | idle0 => exact absurd hs hleave
  | estcom1 =>
    simp only [modeHSm, hs] at hidle
    exact MdhSt.noConfusion hidle
  | startup2 =>
    have hne : dl.modeHandler.state ≠ .operate4 := by
      rw [hs]
      exact MdhSt.noConfusion
    simp only [modeHSm, hs, modeHSmStartup2] at hidle ⊢
    split_ifs at hidle ⊢
    · exact MdhSt.noConfusion hidle
    · exact MdhSt.noConfusion hidle
    · exact other_quiesced_iff hne _
    · exact other_quiesced_iff hne _
    · exact absurd hidle hleave
  | preoperate3 =>
    have hne : dl.modeHandler.state ≠ .operate4 := by
      rw [hs]
      exact MdhSt.noConfusion
    simp only [modeHSm, hs, modeHSmPreoperate3] at hidle ⊢
    split_ifs at hidle ⊢
    · exact MdhSt.noConfusion hidle
    · have hkept : (dl.mhConf .operate).modeHandler.state = dl.modeHandler.state :=
        messageHSm_modeState _
      exact absurd (hkept.symm.trans hidle) hleave
    · exact other_quiesced_iff hne _
    · exact MdhSt.noConfusion hidle
    · exact absurd hidle hleave
  | operate4 =>
    simp only [modeHSm, hs, modeHSmOperate4] at hidle ⊢
    split_ifs at hidle ⊢
    · exact MdhSt.noConfusion hidle
    · exact operate4_quiesced_iff hs _
    · exact operate4_quiesced_iff hs _
    · exact absurd hidle hleave

/-- **Leaving communication.** When the mode handler goes to IDLE_0, the handlers are in the states
a reset would leave them in, with nothing to transfer, exactly if all of them stop. -/
theorem quiesced_iff_stops {dl : Dl} (hleave : dl.modeHandler.state ≠ .idle0)
    (hidle : (dl.step .mdh).modeHandler.state = .idle0) :
    (dl.step .mdh).handlerStates = dl.reset.handlerStates ↔ dl.Stops := by
  rw [reset_handlerStates]
  simp only [step] at hidle ⊢
  split_ifs at hidle ⊢
  · refine (modeHSm_quiesced_iff (by exact hleave) hidle).trans ?_
    exact ⟨fun h => ⟨⟨h.od, h.isdu, h.cmd, h.event, h.message⟩, h.pd⟩,
      fun h => ⟨⟨h.od, h.isdu, h.cmd, h.event, h.message⟩, h.pd⟩⟩
  · exact absurd hidle hleave

/-- One on-request octet and one input octet in each message. -/
def cyclicVl : ModeVl where
  time := 0
  type := .type2V
  pdinputlength := 1
  pdoutputlength := 0
  onreqdatalengthpermessage := 1

/-- Communication is established, and the port goes to OPERATE. -/
def intoOperate : List LinkInput :=
  [.dl (.surroundings { initSdci := true, baudrate := .com2 }), .dl (.setMode .startup cyclicVl),
    .dl .mdh, .dl .wurq, .dl .mh, .dl (.setMode .operate cyclicVl), .dl .mdh, .dl .timeout]

/-- The port is deactivated between two messages, with nothing in progress. -/
theorem stops_betweenMessages :
    (Runs.run linkStep {} (intoOperate ++ [.dl (.setMode .inactive cyclicVl)])).Stops :=
  (quiesced_iff_stops (by decide +kernel) (by decide +kernel)).mp (by decide +kernel)

/-- **A handler that goes on.** The port is deactivated after a master command has been put into a
message. The OD handler stays in COMMAND_2. -/
theorem command2_kept :
    (∀ i ∈ intoOperate ++ [.dl (.control .pdoutvalid), .dl (.rxrdy [0x00, 0x00, 0x00]),
        .dl (.setMode .inactive cyclicVl)], i.Regular) ∧
      ∃ dl, dl = Runs.run linkStep {} (intoOperate ++ [.dl (.control .pdoutvalid),
          .dl (.rxrdy [0x00, 0x00, 0x00]), .dl (.setMode .inactive cyclicVl)]) ∧
        dl.modeHandler.state = .operate4 ∧ (dl.step .mdh).modeHandler.state = .idle0 ∧
        (dl.step .mdh).handlerStates = { od := .command2 } ∧
        (dl.step .mdh).handlerStates ≠ dl.reset.handlerStates :=
  ⟨by decide, _, rfl, by decide +kernel, by decide +kernel, by decide +kernel, by decide +kernel⟩

end Dl

end IolHat
