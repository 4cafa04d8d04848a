import IolHat.DataLink.ThreadFootprint

/-!
# Repetitions of a message

A message that is not answered is sent again. `Counted` is the invariant of the repetitions, for
every input of the layer: there are at most `maxRetry` of them, and the retry counter of the handler
bounds them as long as there may be more.

`sentForAccess_linkStep` says which messages are sent in STARTUP.
-/

namespace IolHat

/-- The number of repetitions of the message that was handed over last. -/
def countResend (n : ℕ) : DlCall → ℕ
  | .plTransferReq .. | .plMessageDownloadReq .. => 0
  | .plResend => n + 1
  | _ => n

/-- The repetitions since a message was handed over for the first time. -/
def resends (calls : List DlCall) : ℕ := calls.foldl countResend 0

theorem countResend_of_not_isMessage {c : DlCall} (hc : ¬ c.IsMessage) (n : ℕ) :
    countResend n c = n := by
  cases c <;> first | rfl | exact absurd trivial hc

theorem resends_concat (cs : List DlCall) (c : DlCall) :
    resends (cs ++ [c]) = countResend (resends cs) c := by
  rw [resends, List.foldl_append]
  rfl

theorem resends_append {cs ds : List DlCall} (hds : ∀ d ∈ ds, ¬ d.IsMessage) :
    resends (cs ++ ds) = resends cs := by
  induction ds generalizing cs with
  | nil => rw [List.append_nil]
  | cons d ds ih =>
    obtain ⟨hd, hds⟩ := List.forall_mem_cons.mp hds
    rw [List.append_cons, ih hds, resends_concat, countResend_of_not_isMessage hd]

/-- The states between the first transmission of a message and its last repetition. -/
def MhSt.Repeats : MhSt → Prop
  | .response3 | .awReply4 | .errorhandling5 | .response8 | .awReply9 | .errorhandling10
  | .response15 | .awReply16 | .errorhandling17 => True
  | _ => False

namespace Dl

/-! ### Every run -/

/-- The message that was handed over last may still be sent again. -/
def Repeatable (dl : Dl) : Prop := dl.messageHandler.state.Repeats

/-- A message has been sent for the first time. -/
def FirstSent (dl : Dl) : Prop :=
  dl.messageHandler.state = .response3 ∨ dl.messageHandler.state = .response8

instance (dl : Dl) : Decidable dl.FirstSent := by unfold FirstSent; infer_instance

/-- The retry counter bounds the repetitions. -/
structure Counted (dl : Dl) : Prop where
  bounded : resends dl.out ≤ maxRetry
  counted : dl.Repeatable → resends dl.out ≤ dl.messageHandler.retry
  first : dl.FirstSent → dl.messageHandler.retry = 0

variable {dl dl' : Dl}

theorem Repeatable.quiet (h : dl.Repeatable) (hquiet : dl.Quiet dl') : dl'.Repeatable := by
  rw [Repeatable, hquiet.state]
  exact h

namespace Counted

/-- The message handler stays where it is. -/
theorem of_kept (h : dl.Counted) (hstate : dl'.messageHandler.state = dl.messageHandler.state)
    (hretry : dl'.messageHandler.retry = dl.messageHandler.retry)
    (hout : resends dl'.out = resends dl.out) : dl'.Counted := by
  refine ⟨?_, ?_, ?_⟩
  · rw [hout]
    exact h.bounded
  · rw [Repeatable, hstate, hout, hretry]
    exact h.counted
  · rw [FirstSent, hstate, hretry]
    exact h.first

theorem quiet (hquiet : dl.Quiet dl') (h : dl.Counted) : dl'.Counted := by
  obtain ⟨cs, hout, hcs⟩ := hquiet.calls
  refine h.of_kept hquiet.state hquiet.retry ?_
  rw [hout, resends_append hcs]

/-- The message handler goes to a state in which nothing is sent again. -/
theorem leave (h : dl.Counted) {dl' : Dl} (hstate : ¬ dl'.Repeatable)
    (hout : resends dl'.out = resends dl.out) : dl'.Counted := by
  refine ⟨?_, fun hrepeat => absurd hrepeat hstate, fun hfirst => ?_⟩
  · rw [hout]
    exact h.bounded
  · refine absurd ?_ hstate
    obtain hs | hs := hfirst
    all_goals
      rw [Repeatable, hs]
      trivial

theorem toMessage (h : dl.Counted) (state : MhSt) (hstate : ¬ state.Repeats) :
    (dl.toMessage state).Counted := h.leave hstate rfl

/-- The handler goes on with the same message. -/
theorem again (h : dl.Counted) (hrepeat : dl.Repeatable) {dl' : Dl} (hfirst : ¬ dl'.FirstSent)
    (hretry : dl'.messageHandler.retry = dl.messageHandler.retry)
    (hout : resends dl'.out = resends dl.out) : dl'.Counted := by
  refine ⟨?_, fun _ => ?_, fun h => absurd h hfirst⟩
  · rw [hout]
    exact h.bounded
  · rw [hout, hretry]
    exact h.counted hrepeat

/-- The M-sequence changes, and nothing is sent again. -/
theorem changeMseq (h : dl.Counted) {state : MhSt}
    (hstate : ¬ (dl.setMseqChange.toMessage state).Repeatable) :
    (dl.setMseqChange.toMessage state).Counted := by
  have hchange := quiet (Quiet.refl dl).setMseqChange h
  exact hchange.leave hstate rfl

/-- A message has been handed over for the first time. -/
theorem of_fresh (hout : resends dl.out = 0) (hfirst : dl.FirstSent → dl.messageHandler.retry = 0) :
    dl.Counted := by
  refine ⟨?_, fun _ => ?_, hfirst⟩
  · rw [hout]
    exact Nat.zero_le _
  · rw [hout]
    exact Nat.zero_le _

/-- A message is repeated. -/
theorem resend (h : dl.Counted) (hrepeat : dl.Repeatable)
    (hretry : ¬ dl.messageHandler.retry ≥ maxRetry) {state : MhSt}
    (hresponse : state ≠ .response3) (hresponse' : state ≠ .response8) :
    (dl.resend state).Counted := by
  have hcounted := h.counted hrepeat
  have hout : resends (dl.resend state).out = resends dl.out + 1 := resends_concat _ _
  refine ⟨?_, fun _ => ?_, fun hfirst => ?_⟩
  · omega
  · rw [hout]
    exact Nat.succ_le_succ hcounted
  · exact absurd hfirst (not_or.mpr ⟨hresponse, hresponse'⟩)

theorem confirmStartupAccess (h : dl.Counted) (value : Octet) (errinfo : Status) :
    (dl.confirmStartupAccess value errinfo).Counted := by
  unfold Dl.confirmStartupAccess
  split
  · exact quiet (((Quiet.refl dl).rwcmd .none).emit id) h
  · exact quiet (((Quiet.refl dl).rwcmd .none).emit id) h
  · exact h

theorem messageHSmAwaitReply1 (h : dl.Counted) : dl.messageHSmAwaitReply1.Counted := by
  unfold Dl.messageHSmAwaitReply1
  split_ifs
  · exact h.leave id (resends_concat _ _)
  · exact h.leave id rfl

theorem startTimerInitcyc (h : dl.Counted) : dl.startTimerInitcyc.Counted :=
  h.of_kept rfl rfl rfl

theorem stopTimer (h : dl.Counted) : dl.stopTimer.Counted := h.of_kept rfl rfl rfl

theorem odTrigger (h : dl.Counted) (trigger : Trigger) :
    (dl.modOd ({ · with trigger := trigger })).Counted := h.of_kept rfl rfl rfl

theorem messageHSmStartup2 (h : dl.Counted) : dl.messageHSmStartup2.Counted := by
  unfold Dl.messageHSmStartup2
  split_ifs
  · exact h.changeMseq id
  · exact h.startTimerInitcyc.changeMseq id
  · exact of_fresh (resends_concat _ _) fun _ => rfl
  · exact h

/-- A state other than the two in which a message has just been sent. -/
theorem not_firstSent {state : MhSt} (hresponse : state ≠ .response3)
    (hresponse' : state ≠ .response8) (dl : Dl) : ¬ (dl.toMessage state).FirstSent :=
  not_or.mpr ⟨hresponse, hresponse'⟩

theorem messageHSmAwaitReply4 (h : dl.Counted) (hrepeat : dl.Repeatable) :
    dl.messageHSmAwaitReply4.Counted := by
  have hback : (dl.toMessage .startup2).Counted := h.leave id rfl
  unfold Dl.messageHSmAwaitReply4
  split_ifs
  · exact hback.confirmStartupAccess _ _
  · exact h.again hrepeat (not_firstSent MhSt.noConfusion MhSt.noConfusion _) rfl rfl
  · exact h

theorem messageHSmErrorHandling5 (h : dl.Counted) (hrepeat : dl.Repeatable) :
    dl.messageHSmErrorHandling5.Counted := by
  have hlost : (((dl.modVars ({ · with timerType := .none })).mhInfoInd .comlost).toMessage
      .inactive0).Counted := h.leave id rfl
  unfold Dl.messageHSmErrorHandling5
  split_ifs with hretry
  · exact hlost.confirmStartupAccess _ _
  · exact h.resend hrepeat hretry MhSt.noConfusion MhSt.noConfusion
  · exact h

theorem messageHSmPreoperate6 (h : dl.Counted) : dl.messageHSmPreoperate6.Counted := by
  unfold Dl.messageHSmPreoperate6
  split_ifs
  · exact h.startTimerInitcyc.changeMseq id
  · exact h.changeMseq id
  · exact of_fresh (resends_concat _ _) fun hfirst =>
      absurd hfirst (not_firstSent MhSt.noConfusion MhSt.noConfusion _)
  · exact h.leave id rfl
  · exact h

/-- The on-request part of a reply. -/
theorem odReply_quiet (dl : Dl) (eventflag : Bool) : dl.Quiet
    ((dl.modOd ({ · with trigger := .deviceMessage })).eventFlagInd eventflag).odHSm :=
  Quiet.odHSm (Quiet.beside (.refl dl) rfl rfl rfl)

theorem messageHSmGetOd7 (dl : Dl) : dl.messageHSmGetOd7.Counted :=
  of_fresh (resends_concat _ _) fun _ => rfl

theorem messageHSmAwaitReply9 (h : dl.Counted) (hrepeat : dl.Repeatable) :
    dl.messageHSmAwaitReply9.Counted := by
  have hquiet := odReply_quiet dl dl.getCKSEvFlag
  have hod := quiet hquiet h
  unfold Dl.messageHSmAwaitReply9
  split_ifs
  · unfold Dl.awaitReply9Received
    dsimp only
    split_ifs
    · exact hod.again (hrepeat.quiet hquiet) (not_firstSent MhSt.noConfusion MhSt.noConfusion _)
        rfl rfl
    · exact hod.stopTimer.toMessage .preoperate6 id
    · exact hod
    · exact (hod.startTimerInitcyc.odTrigger _).toMessage .getod7 id
  · exact h.again hrepeat (not_firstSent MhSt.noConfusion MhSt.noConfusion _) rfl rfl
  · exact h.of_kept rfl rfl rfl

theorem mhHandleComLost (h : dl.Counted) : dl.mhHandleComLost.Counted :=
  h.leave id (resends_concat _ _)

theorem messageHSmErrorHandling10 (h : dl.Counted) (hrepeat : dl.Repeatable) :
    dl.messageHSmErrorHandling10.Counted := by
  have hcommand := quiet ((OnRequestCalls.refl dl).writeMasterCommand .noComm).quiet h
  have hconfirm : (dl.writeMasterCommand .noComm).confirmPreoperateAccess.Counted := by
    unfold Dl.confirmPreoperateAccess
    split
    · exact quiet ((Quiet.refl _).emit id) hcommand
    · exact quiet ((Quiet.refl _).emit id) hcommand
    · exact quiet ((Quiet.refl _).emit id) hcommand
    · exact quiet ((Quiet.refl _).emit id) hcommand
    · exact hcommand
  unfold Dl.messageHSmErrorHandling10
  split_ifs with hretry
  · exact hconfirm.mhHandleComLost
  · exact h.resend hrepeat hretry MhSt.noConfusion MhSt.noConfusion
  · exact h

theorem messageHSmGetOd14 (dl : Dl) : dl.messageHSmGetOd14.Counted :=
  of_fresh (resends_concat _ _) fun hfirst =>
    absurd hfirst (not_firstSent MhSt.noConfusion MhSt.noConfusion _)

/-- The cycle timer is stopped and the port goes back to STARTUP. -/
theorem backToStartup (h : dl.Counted) :
    ((dl.emit .plDisableCycleTimer).setMseqChange.toMessage .startup2).Counted :=
  (quiet ((Quiet.refl dl).emit id) h).changeMseq id

theorem messageHSmOperate12 (h : dl.Counted) : dl.messageHSmOperate12.Counted := by
  unfold Dl.messageHSmOperate12
  split_ifs
  · exact h.backToStartup
  · exact h.leave id (resends_concat _ _)
  · exact messageHSmGetOd14 _
  · exact messageHSmGetOd14 _

theorem messageHSmAwaitReply16 (h : dl.Counted) : dl.messageHSmAwaitReply16.Counted := by
  unfold Dl.messageHSmAwaitReply16
  split_ifs
  · exact h.backToStartup
  · exact h.leave id (resends_concat _ _)
  · exact of_fresh (resends_concat _ _) fun hfirst =>
      absurd hfirst (not_firstSent MhSt.noConfusion MhSt.noConfusion _)
  · exact of_fresh (resends_concat _ _) fun hfirst =>
      absurd hfirst (not_firstSent MhSt.noConfusion MhSt.noConfusion _)
  · exact h.mhHandleComLost
  · exact h.of_kept rfl rfl rfl

theorem messageHSmErrorHandling17 (h : dl.Counted) (hrepeat : dl.Repeatable) :
    dl.messageHSmErrorHandling17.Counted := by
  have hcks : dl.Quiet dl.readCks := ⟨rfl, rfl, rfl, (Quiet.refl dl).calls⟩
  have hpd : dl.Quiet (dl.readCks.pdInStatusInd dl.readCks.getCKSPDIn).pdDevice :=
    Quiet.pdHSm ((hcks.emit id).beside rfl rfl rfl)
  unfold Dl.messageHSmErrorHandling17
  split_ifs with hretry
  · exact h.mhHandleComLost
  · exact h.resend hrepeat hretry MhSt.noConfusion MhSt.noConfusion
  · exact leave (quiet (odReply_quiet _ _) (quiet hpd h)) id rfl
  · exact h

/-- **The message handler.** -/
theorem messageHSm (h : dl.Counted) : dl.messageHSm.Counted := by
  unfold Dl.messageHSm
  split
  · exact quiet ((Quiet.refl dl).emit id) h
  · exact h.messageHSmAwaitReply1
  · exact h.messageHSmStartup2
  · next hs =>
    refine messageHSmAwaitReply4 (h.again ?_ ?_ rfl rfl) trivial
    · rw [Repeatable, hs]
      trivial
    · exact not_firstSent MhSt.noConfusion MhSt.noConfusion _
  · next hs => exact h.messageHSmAwaitReply4 (by rw [Repeatable, hs]; trivial)
  · next hs => exact h.messageHSmErrorHandling5 (by rw [Repeatable, hs]; trivial)
  · exact h.messageHSmPreoperate6
  · exact messageHSmGetOd7 dl
  · next hs => exact h.messageHSmAwaitReply9 (by rw [Repeatable, hs]; trivial)
  · next hs => exact h.messageHSmAwaitReply9 (by rw [Repeatable, hs]; trivial)
  · next hs => exact h.messageHSmErrorHandling10 (by rw [Repeatable, hs]; trivial)
  · exact h
  · exact h.messageHSmOperate12
  · exact messageHSmGetOd14 _
  · exact messageHSmGetOd14 _
  · next hs =>
    refine messageHSmAwaitReply16 (h.again ?_ ?_ rfl rfl)
    · rw [Repeatable, hs]
      trivial
    · exact not_firstSent MhSt.noConfusion MhSt.noConfusion _
  · exact h.messageHSmAwaitReply16
  · next hs => exact h.messageHSmErrorHandling17 (by rw [Repeatable, hs]; trivial)

theorem threadClosed : ThreadClosed Counted :=
  .of_vars quiet (fun _ h => h.of_kept rfl rfl rfl) messageHSm (fun h => h.leave id rfl)
    (fun h => h.leave id rfl) fun h => h.leave id rfl

end Counted

/-! ### The first transmission in STARTUP -/

/-- No message has just been sent in STARTUP. -/
def Away (dl : Dl) : Prop := dl.messageHandler.state ≠ .response3

/-- A message that has just been sent in STARTUP belongs to a DL_Read or to a DL_Write. -/
def SentForAccess (dl : Dl) : Prop :=
  dl.messageHandler.state = .response3 →
    dl.messageHandler.rwcmd = .read ∨ dl.messageHandler.rwcmd = .write

namespace Away

theorem sentForAccess (h : dl.Away) : dl.SentForAccess := fun hsent => absurd hsent h

theorem quiet (h : dl.Away) (hquiet : dl.Quiet dl') : dl'.Away := by
  rw [Away, hquiet.state]
  exact h

theorem of_state {state : MhSt} (h : state ≠ .response3)
    (hstate : dl.messageHandler.state = state) : dl.Away := by
  rw [Away, hstate]
  exact h

theorem toMessage {state : MhSt} (h : state ≠ .response3) (dl : Dl) : (dl.toMessage state).Away := h

theorem confirmStartupAccess (h : dl.Away) (value : Octet) (errinfo : Status) :
    (dl.confirmStartupAccess value errinfo).Away := by
  unfold Dl.confirmStartupAccess
  split
  · exact h
  · exact h
  · exact h

theorem messageHSmAwaitReply4 (h : dl.Away) : dl.messageHSmAwaitReply4.Away := by
  unfold Dl.messageHSmAwaitReply4
  split_ifs
  · exact (toMessage MhSt.noConfusion _).confirmStartupAccess _ _
  · exact toMessage MhSt.noConfusion _
  · exact h

theorem messageHSmErrorHandling5 (h : dl.Away) : dl.messageHSmErrorHandling5.Away := by
  unfold Dl.messageHSmErrorHandling5
  split_ifs
  · exact (toMessage MhSt.noConfusion _).confirmStartupAccess _ _
  · exact toMessage MhSt.noConfusion _
  · exact h

theorem messageHSmPreoperate6 (h : dl.Away) : dl.messageHSmPreoperate6.Away := by
  unfold Dl.messageHSmPreoperate6
  split_ifs
  · exact toMessage MhSt.noConfusion _
  · exact toMessage MhSt.noConfusion _
  · exact toMessage MhSt.noConfusion _
  · exact toMessage MhSt.noConfusion _
  · exact h

theorem messageHSmAwaitReply9 (h : dl.Away) : dl.messageHSmAwaitReply9.Away := by
  unfold Dl.messageHSmAwaitReply9
  split_ifs
  · unfold Dl.awaitReply9Received
    dsimp only
    split_ifs
    · exact toMessage MhSt.noConfusion _
    · exact toMessage MhSt.noConfusion _
    · exact h.quiet (Counted.odReply_quiet dl _)
    · exact toMessage MhSt.noConfusion _
  · exact toMessage MhSt.noConfusion _
  · exact h

theorem messageHSmErrorHandling10 (h : dl.Away) : dl.messageHSmErrorHandling10.Away := by
  unfold Dl.messageHSmErrorHandling10
  split_ifs
  · exact toMessage MhSt.noConfusion _
  · exact toMessage MhSt.noConfusion _
  · exact h

theorem messageHSmOperate12 (dl : Dl) : dl.messageHSmOperate12.Away := by
  unfold Dl.messageHSmOperate12
  split_ifs
  all_goals exact toMessage MhSt.noConfusion _

theorem messageHSmAwaitReply16 (h : dl.Away) : dl.messageHSmAwaitReply16.Away := by
  unfold Dl.messageHSmAwaitReply16
  split_ifs
  · exact toMessage MhSt.noConfusion _
  · exact toMessage MhSt.noConfusion _
  · exact toMessage MhSt.noConfusion _
  · exact toMessage MhSt.noConfusion _
  · exact toMessage MhSt.noConfusion _
  · exact h

theorem messageHSmErrorHandling17 (h : dl.Away) : dl.messageHSmErrorHandling17.Away := by
  unfold Dl.messageHSmErrorHandling17
  split_ifs
  · exact toMessage MhSt.noConfusion _
  · exact toMessage MhSt.noConfusion _
  · exact toMessage MhSt.noConfusion _
  · exact h

end Away

/-- Only STARTUP_2 sends such a message. -/
theorem sentForAccess_messageHSm (dl : Dl) : dl.messageHSm.SentForAccess := by
  unfold Dl.messageHSm
  split
  · next hs => exact (Away.of_state MhSt.noConfusion hs).sentForAccess
  · refine Away.sentForAccess ?_
    unfold Dl.messageHSmAwaitReply1
    split_ifs
    all_goals exact Away.toMessage MhSt.noConfusion _
  · next hs =>
    unfold Dl.messageHSmStartup2
    split_ifs with _ _ haccess
    · exact (Away.toMessage MhSt.noConfusion _).sentForAccess
    · exact (Away.toMessage MhSt.noConfusion _).sentForAccess
    · exact fun _ => haccess
    · exact (Away.of_state MhSt.noConfusion hs).sentForAccess
  · exact (Away.toMessage MhSt.noConfusion _).messageHSmAwaitReply4.sentForAccess
  · next hs => exact (Away.of_state MhSt.noConfusion hs).messageHSmAwaitReply4.sentForAccess
  · next hs => exact (Away.of_state MhSt.noConfusion hs).messageHSmErrorHandling5.sentForAccess
  · next hs => exact (Away.of_state MhSt.noConfusion hs).messageHSmPreoperate6.sentForAccess
  · exact (Away.toMessage MhSt.noConfusion _).sentForAccess
  · next hs => exact (Away.of_state MhSt.noConfusion hs).messageHSmAwaitReply9.sentForAccess
  · next hs => exact (Away.of_state MhSt.noConfusion hs).messageHSmAwaitReply9.sentForAccess
  · next hs => exact (Away.of_state MhSt.noConfusion hs).messageHSmErrorHandling10.sentForAccess
  · next hs => exact (Away.of_state MhSt.noConfusion hs).sentForAccess
  · exact (Away.messageHSmOperate12 dl).sentForAccess
  · exact (Away.toMessage MhSt.noConfusion _).sentForAccess
  · exact (Away.toMessage MhSt.noConfusion _).sentForAccess
  · exact (Away.toMessage MhSt.noConfusion _).messageHSmAwaitReply16.sentForAccess
  · next hs => exact (Away.of_state MhSt.noConfusion hs).messageHSmAwaitReply16.sentForAccess
  · next hs => exact (Away.of_state MhSt.noConfusion hs).messageHSmErrorHandling17.sentForAccess

/-- The mode handler calls the message handler last. -/
theorem sentForAccess_modeHSm (h : dl.Away) : dl.modeHSm.SentForAccess := by
  have hcalled : ∀ {d : Dl} (cmd : MHCmd), (d.mhConf cmd).SentForAccess :=
    fun _ => sentForAccess_messageHSm _
  have hoperate : ∀ d : Dl, d.modeHSmGotoOperate.SentForAccess := by
    intro d
    unfold Dl.modeHSmGotoOperate
    exact hcalled _
  unfold Dl.modeHSm
  split
  · unfold Dl.modeHSmIdle0
    split_ifs
    · exact h.sentForAccess
    · exact h.sentForAccess
  · exact h.sentForAccess
  · unfold Dl.modeHSmStartup2
    split_ifs
    · exact hcalled _
    · exact hoperate _
    · exact hcalled _
    · exact hcalled _
    · exact h.sentForAccess
  · unfold Dl.modeHSmPreoperate3
    split_ifs
    · exact hcalled _
    · exact hcalled _
    · exact hcalled _
    · exact hoperate _
    · exact h.sentForAccess
  · unfold Dl.modeHSmOperate4
    split_ifs
    · exact hcalled _
    · exact hcalled _
    · exact hcalled _
    · exact h.sentForAccess

theorem sentForAccess_handleError (h : dl.Away) : dl.handleError.SentForAccess := by
  obtain ⟨v, hv, -⟩ := dl.readErrors_frame
  rw [handleError_eq, hv]
  split_ifs
  · exact sentForAccess_messageHSm _
  · exact h.sentForAccess

/-- After a wake-up the handler has at most gone to STARTUP_2. -/
theorem Away.wurqRecv (h : dl.Away) : dl.wurqRecv.Away := by
  have hestablished : ∀ d : Dl, ((d.toMessage .awReply1).messageHSm.chConf .active).Away := by
    intro d
    have hcalled : (d.toMessage .awReply1).messageHSmAwaitReply1.Away := by
      unfold Dl.messageHSmAwaitReply1
      split_ifs
      all_goals exact toMessage MhSt.noConfusion _
    exact hcalled.quiet ((Quiet.refl _).cmdHSm _)
  have hrest : ∀ {d : Dl}, d.Away → (d.getError.modObjects ({ · with mhEvent := true })).Away :=
    fun hd => hd
  have hemit : ∀ {d : Dl} (c : DlCall), d.Away → (d.emit c).Away := fun _ hd => hd
  unfold Dl.wurqRecv
  dsimp only
  split_ifs
  · exact h
  · unfold Dl.wurqEstablished
    dsimp only
    refine hrest ?_
    split
    · exact hemit _ (hemit _ (hestablished _))
    · exact (toMessage MhSt.noConfusion _).quiet ((Quiet.refl _).cmdHSm _)

/-- **Every input.** A message that is sent in STARTUP belongs to a DL_Read or to a DL_Write. -/
theorem sentForAccess_linkStep (h : dl.Away) (i : LinkInput) : (dl.linkStep i).SentForAccess := by
  have hquiet : ∀ {d : Dl}, dl.Quiet d → d.SentForAccess :=
    fun hquiet => (h.quiet hquiet).sentForAccess
  have hflags : ∀ {d : Dl} (f : DlVars → DlVars), d.SentForAccess → (d.modVars f).SentForAccess :=
    fun _ hd => hd
  have hbegin := Quiet.refl dl
  cases i with
  | isduTransport vl => exact hquiet (hbegin.isduTransportReq vl)
  | readParam address => exact hquiet (hbegin.readWriteParamReq address 0 false)
  | writeParam address value => exact hquiet (hbegin.readWriteParamReq address value true)
  | dl i =>
    cases i with
    | surroundings pl => exact h.sentForAccess
    | rxrdy octets =>
      change (dl.rxrdy octets).SentForAccess
      rw [rxrdy_eq]
      split_ifs
      · exact h.sentForAccess
      · exact hflags _ (sentForAccess_messageHSm _)
    | rxerr => exact sentForAccess_handleError h
    | txerr => exact sentForAccess_handleError h
    | wurq => exact h.wurqRecv.sentForAccess
    | mdh =>
      simp only [Dl.linkStep, Dl.step]
      split_ifs
      · exact sentForAccess_modeHSm h
      · exact h.sentForAccess
    | mh =>
      simp only [Dl.linkStep, Dl.step]
      split_ifs
      · exact sentForAccess_messageHSm _
      · exact h.sentForAccess
    | timeout =>
      simp only [Dl.linkStep, Dl.step, Dl.handleTimerTimeout]
      split_ifs
      · exact sentForAccess_messageHSm _
      · exact h.sentForAccess
    | setMode mode valuelist => exact hquiet (hbegin.setModeReq mode valuelist)
    | read address => exact hquiet (hbegin.readWriteReq address 0 false)
    | write address value => exact hquiet (hbegin.readWriteReq address value true)
    | writeDevicemode devicemode => exact hquiet (hbegin.writeDevicemodeReq devicemode)
    | control controlcode => exact hquiet (hbegin.controlReq controlcode)
    | pdOutputUpdate outputdata => exact hquiet (hbegin.pdOutputUpdateReq outputdata)
    | eventConf => exact h.sentForAccess
    | reset => exact fun hsent => MhSt.noConfusion hsent

end Dl

end IolHat
