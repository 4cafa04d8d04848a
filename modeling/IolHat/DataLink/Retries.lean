import IolHat.DataLink.ParamRequest
import IolHat.DataLink.Repetitions
import IolHat.DataLink.Flags

/-!
# Repetitions and lost communication

A message is followed from its first transmission through errors, timeouts and replies, as long as
the handler gets no reply while it waits for one (`Unanswered`). An `Attempt` counts the failures:
errors while the handler waits, and timeouts while it handles an error. `Attempt.Tracks` is the
invariant: with `k` repetitions there have been at most `2 * k + 1` failures and no confirmation, or
COMLOST has been reported and the pending access has been confirmed negatively.
-/

namespace IolHat

namespace Dl

/-! ### One message -/

/-- The handler waits for the reply to a message, in STARTUP or in PREOPERATE. -/
def Waits (dl : Dl) : Prop :=
  dl.messageHandler.state = .response3 ∨ dl.messageHandler.state = .awReply4 ∨
    dl.messageHandler.state = .response8 ∨ dl.messageHandler.state = .awReply9

instance (dl : Dl) : Decidable dl.Waits := by unfold Waits; infer_instance

/-- The handler has been told of an error and lets the timer run before it sends the message
again. -/
def HandlesError (dl : Dl) : Prop :=
  dl.messageHandler.state = .errorhandling5 ∨ dl.messageHandler.state = .errorhandling10

instance (dl : Dl) : Decidable dl.HandlesError := by unfold HandlesError; infer_instance

theorem HandlesError.not_waits {dl : Dl} (h : dl.HandlesError) : ¬ dl.Waits := by
  obtain h | h := h
  all_goals simp [Waits, h]

/-- The message is one of STARTUP. -/
def InStartup (dl : Dl) : Prop :=
  dl.messageHandler.state = .response3 ∨ dl.messageHandler.state = .awReply4 ∨
    dl.messageHandler.state = .errorhandling5

instance (dl : Dl) : Decidable dl.InStartup := by unfold InStartup; infer_instance

/-- Communication has been lost, and the mode handler is told so. -/
structure Lost (dl : Dl) : Prop where
  state : dl.messageHandler.state = .inactive0
  mhinfo : dl.modeHandler.mhinfo = .comlost
  mdhEvent : dl.objects.mdhEvent = true

instance (dl : Dl) : Decidable dl.Lost :=
  decidable_of_iff (_ ∧ _ ∧ _) ⟨fun h => ⟨h.1, h.2.1, h.2.2⟩, fun h => ⟨h.1, h.2, h.3⟩⟩

/-- The negative confirmation of the access that is pending. -/
def pendingCnf (dl : Dl) : List DlCall :=
  match dl.messageHandler.rwcmd with
  | .read => [.readCnf 0 .noComm]
  | .write => [.writeCnf .noComm]
  | .readparam => [.readParamCnf 0 .noComm]
  | .writeparam => [.writeParamCnf .noComm]
  | _ => []

end Dl

/-- The confirmation of a direct parameter access, in STARTUP or later. -/
def DlCall.isAccessCnf : DlCall → Bool
  | .readCnf .. | .writeCnf _ | .readParamCnf .. | .writeParamCnf _ => true
  | _ => false

/-- The confirmations of accesses. -/
def accessCnfs (calls : List DlCall) : List DlCall := calls.filter DlCall.isAccessCnf

theorem accessCnfs_append (cs ds : List DlCall) :
    accessCnfs (cs ++ ds) = accessCnfs cs ++ accessCnfs ds := List.filter_append ..

namespace Dl

variable {dl₀ dl dl' : Dl}

theorem accessCnfs_pendingCnf (dl : Dl) : accessCnfs dl.pendingCnf = dl.pendingCnf := by
  unfold pendingCnf
  split <;> rfl

theorem count_pendingCnf (dl : Dl) : dl.pendingCnf.count .plResend = 0 := by
  unfold pendingCnf
  split <;> rfl

/-- The message has been sent and perhaps repeated, and no access has been confirmed since. -/
structure Pending (dl₀ dl : Dl) : Prop where
  rwcmd : dl.messageHandler.rwcmd = dl₀.messageHandler.rwcmd
  access : dl.InStartup → dl.messageHandler.rwcmd = .read ∨ dl.messageHandler.rwcmd = .write
  repeated : dl.out.count .plResend = dl.messageHandler.retry
  bounded : dl.messageHandler.retry ≤ maxRetry
  unconfirmed : accessCnfs dl.out = []

/-- Communication has been lost, and the pending access has been confirmed negatively. -/
structure GivenUp (dl₀ dl : Dl) : Prop where
  state : dl.messageHandler.state = .inactive0
  rwcmd : dl.messageHandler.rwcmd = .none
  repeated : dl.out.count .plResend ≤ maxRetry
  confirmed : accessCnfs dl.out = dl₀.pendingCnf

/-- The message handler and the log are the same. -/
structure SameMessage (dl dl' : Dl) : Prop where
  message : dl'.messageHandler = dl.messageHandler
  out : dl'.out = dl.out

/-- So are the loss of communication and the timer. -/
structure SameStage (dl dl' : Dl) : Prop extends dl.SameMessage dl' where
  mode : dl'.modeHandler = dl.modeHandler
  mdhEvent : dl'.objects.mdhEvent = dl.objects.mdhEvent
  timerType : dl'.vars.timerType = dl.vars.timerType
  timerRunning : dl'.objects.timerRunning = dl.objects.timerRunning

theorem Pending.of_same (h : dl₀.Pending dl) (hsame : dl.SameMessage dl') : dl₀.Pending dl' := by
  obtain ⟨hmessage, hout⟩ := hsame
  refine ⟨?_, ?_, ?_, ?_, ?_⟩
  · rw [hmessage]
    exact h.rwcmd
  · rw [InStartup, hmessage]
    exact h.access
  · rw [hout, hmessage]
    exact h.repeated
  · rw [hmessage]
    exact h.bounded
  · rw [hout]
    exact h.unconfirmed

theorem GivenUp.of_same (h : dl₀.GivenUp dl) (hsame : dl.SameMessage dl') : dl₀.GivenUp dl' := by
  obtain ⟨hmessage, hout⟩ := hsame
  refine ⟨?_, ?_, ?_, ?_⟩
  · rw [hmessage]
    exact h.state
  · rw [hmessage]
    exact h.rwcmd
  · rw [hout]
    exact h.repeated
  · rw [hout]
    exact h.confirmed

theorem Lost.of_same (h : dl.Lost) (hsame : dl.SameStage dl') : dl'.Lost := by
  refine ⟨?_, ?_, hsame.mdhEvent.trans h.mdhEvent⟩
  · rw [hsame.message]
    exact h.state
  · rw [hsame.mode]
    exact h.mhinfo

/-- The handler goes to another state with the same message. -/
theorem Pending.toMessage (h : dl₀.Pending dl) {state : MhSt}
    (hstate : (dl.toMessage state).InStartup → dl.InStartup) : dl₀.Pending (dl.toMessage state) :=
  ⟨h.rwcmd, fun hs => h.access (hstate hs), h.repeated, h.bounded, h.unconfirmed⟩

/-- The message is sent again. -/
theorem Pending.resend (h : dl₀.Pending dl) (hretry : ¬ dl.messageHandler.retry ≥ maxRetry)
    {state : MhSt} (hstate : (dl.toMessage state).InStartup → dl.InStartup) :
    dl₀.Pending (dl.resend state) where
  rwcmd := h.rwcmd
  access hs := h.access (hstate hs)
  repeated := by
    change (dl.out ++ [DlCall.plResend]).count _ = dl.messageHandler.retry + 1
    rw [List.count_append, h.repeated]
    rfl
  bounded := Nat.lt_of_not_le hretry
  unconfirmed := by
    change accessCnfs (dl.out ++ [DlCall.plResend]) = []
    rw [accessCnfs_append, h.unconfirmed]
    rfl

/-! ### The handler is called -/

/-- What a call does while the handler waits and no reply has come. -/
structure CalledWaiting (dl₀ dl dl' : Dl) : Prop where
  pending : dl₀.Pending dl'
  retry : dl'.messageHandler.retry = dl.messageHandler.retry
  told : dl.errorReported = true → dl'.HandlesError ∧ dl'.vars.timerType = .tinitcycMh ∧
    dl'.objects.timerRunning = true
  silent : dl.errorReported = false → dl'.Waits

theorem calledWaiting_awaitReply4 (h : dl₀.Pending dl) (hs : dl.messageHandler.state = .awReply4)
    (hready : dl.vars.dataready = false) : dl₀.CalledWaiting dl dl.messageHSmAwaitReply4 := by
  unfold messageHSmAwaitReply4
  rw [if_neg (Bool.eq_false_iff.mp hready)]
  split_ifs with herror
  · have hstarted : dl₀.Pending dl.startTimerInitcyc := h.of_same ⟨rfl, rfl⟩
    refine ⟨hstarted.toMessage fun _ => .inr (.inl hs), rfl, fun _ => ⟨.inl rfl, rfl, rfl⟩,
      fun hsilent => ?_⟩
    exact absurd herror (Bool.eq_false_iff.mp hsilent)
  · exact ⟨h, rfl, fun htold => absurd htold herror, fun _ => .inr (.inl hs)⟩

theorem calledWaiting_awaitReply9 (h : dl₀.Pending dl)
    (hs : dl.messageHandler.state = .response8 ∨ dl.messageHandler.state = .awReply9)
    (hready : dl.vars.dataready = false) : dl₀.CalledWaiting dl dl.messageHSmAwaitReply9 := by
  unfold messageHSmAwaitReply9
  rw [if_neg (Bool.eq_false_iff.mp hready)]
  split_ifs with herror
  · have hstarted : dl₀.Pending dl.startTimerInitcyc := h.of_same ⟨rfl, rfl⟩
    refine ⟨hstarted.toMessage fun hstartup => ?_, rfl, fun _ => ⟨.inr rfl, rfl, rfl⟩,
      fun hsilent => ?_⟩
    · simp [InStartup, Dl.toMessage] at hstartup
    · exact absurd herror (Bool.eq_false_iff.mp hsilent)
  · exact ⟨h.of_same ⟨rfl, rfl⟩, rfl, fun htold => absurd htold herror, fun _ => .inr (.inr hs)⟩

/-- **A call while the handler waits.** -/
theorem messageHSm_of_waits (h : dl₀.Pending dl) (hwaits : dl.Waits)
    (hready : dl.vars.dataready = false) : dl₀.CalledWaiting dl dl.messageHSm := by
  obtain hs | hs | hs | hs := hwaits
  -- `MH_ST_RESPONSE_3` goes on to `MH_ST_AW_REPLY_4` in the same call
  · have hnext : dl₀.Pending (dl.toMessage .awReply4) := h.toMessage fun _ => .inl hs
    obtain ⟨hpending, hretry, htold, hsilent⟩ := calledWaiting_awaitReply4 hnext rfl hready
    simp only [messageHSm, hs]
    exact ⟨hpending, hretry, htold, hsilent⟩
  · simp only [messageHSm, hs]
    exact calledWaiting_awaitReply4 h hs hready
  · simp only [messageHSm, hs]
    exact calledWaiting_awaitReply9 h (.inl hs) hready
  · simp only [messageHSm, hs]
    exact calledWaiting_awaitReply9 h (.inr hs) hready

/-- What a call does while the handler handles an error. -/
structure CalledHandling (dl₀ dl dl' : Dl) : Prop where
  exhausted : dl.messageHandler.retry ≥ maxRetry → dl₀.GivenUp dl' ∧ dl'.Lost
  repeated : dl.messageHandler.retry < maxRetry → dl.repetitionDue = true →
    dl₀.Pending dl' ∧ dl'.messageHandler.retry = dl.messageHandler.retry + 1 ∧ dl'.Waits
  silent : dl.messageHandler.retry < maxRetry → dl.repetitionDue = false → dl' = dl

/-- The pending access is confirmed. -/
theorem Pending.giveUp (h : dl₀.Pending dl) (hstate : dl'.messageHandler.state = .inactive0)
    (hrwcmd : dl'.messageHandler.rwcmd = .none) {cs ds : List DlCall}
    (hout : dl'.out = dl.out ++ cs ++ dl₀.pendingCnf ++ ds)
    (hcs : cs.count .plResend = 0 ∧ accessCnfs cs = [])
    (hds : ds.count .plResend = 0 ∧ accessCnfs ds = []) : dl₀.GivenUp dl' := by
  refine ⟨hstate, hrwcmd, ?_, ?_⟩
  · rw [hout, List.count_append, List.count_append, List.count_append, hcs.1, hds.1,
      count_pendingCnf, h.repeated]
    exact h.bounded
  · rw [hout, accessCnfs_append, accessCnfs_append, accessCnfs_append, h.unconfirmed, hcs.2, hds.2,
      accessCnfs_pendingCnf, List.append_nil]
    rfl

/-- STARTUP: the access is confirmed negatively. -/
theorem givenUp_startup (h : dl₀.Pending dl) (hs : dl.messageHandler.state = .errorhandling5)
    {d : Dl} (hd : d = ((dl.modVars ({ · with timerType := .none })).mhInfoInd .comlost).toMessage
      .inactive0) :
    dl₀.GivenUp (d.confirmStartupAccess 0 .noComm) ∧ (d.confirmStartupAccess 0 .noComm).Lost := by
  have hrwcmd : d.messageHandler.rwcmd = dl.messageHandler.rwcmd := by
    rw [hd]
    rfl
  have hout : d.out = dl.out := by
    rw [hd]
    rfl
  have hlost : d.Lost := by
    rw [hd]
    exact ⟨rfl, rfl, rfl⟩
  have hnone : [].count DlCall.plResend = 0 ∧ accessCnfs [] = [] := ⟨rfl, rfl⟩
  have hlog : (d.confirmStartupAccess 0 .noComm).out = dl.out ++ [] ++ dl₀.pendingCnf ++ [] := by
    rw [List.append_nil, List.append_nil, ← hout]
    unfold confirmStartupAccess pendingCnf
    rw [← h.rwcmd, ← hrwcmd]
    obtain hc | hc := h.access (.inr (.inr hs))
    all_goals
      rw [hrwcmd, hc]
      rfl
  obtain hc | hc := h.access (.inr (.inr hs))
  all_goals
    unfold confirmStartupAccess at hlog ⊢
    rw [hrwcmd, hc] at hlog ⊢
    exact ⟨h.giveUp hlost.state rfl hlog hnone hnone, hlost.state, hlost.mhinfo, hlost.mdhEvent⟩

/-- PREOPERATE: the access is confirmed negatively. -/
theorem givenUp_preoperate (h : dl₀.Pending dl) :
    dl₀.GivenUp (dl.writeMasterCommand .noComm).confirmPreoperateAccess.mhHandleComLost := by
  -- a pending master command is confirmed first, which confirms no access
  obtain ⟨cs, hcs, hcommand, hrwcmd⟩ : ∃ cs, (cs.count .plResend = 0 ∧ accessCnfs cs = []) ∧
      (dl.writeMasterCommand .noComm).out = dl.out ++ cs ∧
      (dl.writeMasterCommand .noComm).messageHandler.rwcmd = dl₀.messageHandler.rwcmd := by
    unfold writeMasterCommand
    dsimp only
    split_ifs
    · exact ⟨[_], ⟨rfl, rfl⟩, rfl, h.rwcmd⟩
    · exact ⟨[], ⟨rfl, rfl⟩, (List.append_nil _).symm, h.rwcmd⟩
  have hout : (dl.writeMasterCommand .noComm).confirmPreoperateAccess.out =
      dl.out ++ cs ++ dl₀.pendingCnf := by
    unfold confirmPreoperateAccess pendingCnf
    cases hc : dl₀.messageHandler.rwcmd
    all_goals simp only [hrwcmd, hc, ← hcommand, List.append_nil]
    all_goals rfl
  have hlast : [DlCall.plDisableCycleTimer].count .plResend = 0 ∧
      accessCnfs [DlCall.plDisableCycleTimer] = [] := ⟨rfl, rfl⟩
  refine h.giveUp rfl rfl ?_ hcs hlast
  rw [← hout]
  rfl

/-- **A call while the handler handles an error**, whatever the reason of the call. -/
theorem messageHSm_of_handlesError (h : dl₀.Pending dl) (hhandles : dl.HandlesError) :
    dl₀.CalledHandling dl dl.messageHSm := by
  obtain hs | hs := hhandles
  · simp only [messageHSm, hs, messageHSmErrorHandling5]
    split_ifs with hretry hdue
    · exact ⟨fun _ => givenUp_startup h hs rfl, fun hlt => absurd hretry (Nat.not_le.mpr hlt),
        fun hlt => absurd hretry (Nat.not_le.mpr hlt)⟩
    · refine ⟨fun hge => absurd hge hretry,
        fun _ _ => ⟨h.resend hretry fun _ => .inr (.inr hs), rfl, .inr (.inl rfl)⟩,
        fun _ hno => absurd hdue (Bool.eq_false_iff.mp hno)⟩
    · exact ⟨fun hge => absurd hge hretry, fun _ hyes => absurd hyes hdue, fun _ _ => rfl⟩
  · simp only [messageHSm, hs, messageHSmErrorHandling10]
    split_ifs with hretry hdue
    · exact ⟨fun _ => ⟨givenUp_preoperate h, rfl, rfl, rfl⟩,
        fun hlt => absurd hretry (Nat.not_le.mpr hlt),
        fun hlt => absurd hretry (Nat.not_le.mpr hlt)⟩
    · refine ⟨fun hge => absurd hge hretry,
        fun _ _ => ⟨h.resend hretry fun hstartup => ?_, rfl, .inr (.inr (.inr rfl))⟩,
        fun _ hno => absurd hdue (Bool.eq_false_iff.mp hno)⟩
      simp [InStartup, Dl.toMessage] at hstartup
    · exact ⟨fun hge => absurd hge hretry, fun _ hyes => absurd hyes hdue, fun _ _ => rfl⟩

/-! ### Communication has been lost -/

/-- The handler does nothing any more. -/
theorem messageHSm_of_inactive0 (h : dl.messageHandler.state = .inactive0) :
    dl.messageHSm = dl.emit .plDisableCycleTimer := by
  simp only [messageHSm, h, messageHSmInactive0]

namespace GivenUp

/-- The handlers of on-request data find no command that they could confirm. -/
theorem onRequestCalls (h : dl₀.GivenUp dl) (hcalls : dl.OnRequestCalls dl') : dl₀.GivenUp dl' := by
  obtain ⟨cs, hout, hcs⟩ := hcalls.calls
  have hother : ∀ c ∈ cs, c ≠ .plResend ∧ ¬ c.isAccessCnf = true := by
    intro c hc
    have hrequest := hcs c hc
    rw [h.rwcmd] at hrequest
    cases c <;> first | exact hrequest.elim | exact MHRWCmd.noConfusion hrequest |
      exact ⟨DlCall.noConfusion, Bool.false_ne_true⟩
  refine ⟨?_, ?_, ?_, ?_⟩
  · exact (congrArg Prod.fst hcalls.front).trans h.state
  · obtain hrwcmd | hrwcmd := hcalls.rwcmd
    · exact hrwcmd.trans h.rwcmd
    · exact hrwcmd
  · rw [hout, List.count_append,
      List.count_eq_zero.mpr fun hmem => (hother _ hmem).1 rfl]
    exact h.repeated
  · rw [hout, accessCnfs_append, h.confirmed, accessCnfs,
      List.filter_eq_nil_iff.mpr fun c hc => (hother c hc).2, List.append_nil]

theorem emit (h : dl₀.GivenUp dl) {c : DlCall} (hc : c ≠ .plResend ∧ c.isAccessCnf = false) :
    dl₀.GivenUp (dl.emit c) := by
  refine ⟨h.state, h.rwcmd, ?_, ?_⟩
  · rw [emit_out, List.count_append, List.count_singleton, if_neg (by simpa using hc.1)]
    exact h.repeated
  · rw [emit_out, accessCnfs_append, h.confirmed, accessCnfs, List.filter_singleton, hc.2]
    exact List.append_nil _

/-- **A call after communication has been lost.** -/
theorem messageHSm (h : dl₀.GivenUp dl) : dl₀.GivenUp dl.messageHSm := by
  rw [messageHSm_of_inactive0 h.state]
  exact h.emit ⟨DlCall.noConfusion, rfl⟩

theorem phConf (h : dl₀.GivenUp dl) (cmd : PHCmd) : dl₀.GivenUp (dl.phConf cmd) := by
  have hclosed : PdClosed dl₀.GivenUp :=
    ⟨fun _ h => h.of_same ⟨rfl, rfl⟩, fun h => h.of_same ⟨rfl, rfl⟩,
      fun _ _ h => h.emit ⟨DlCall.noConfusion, rfl⟩, fun _ _ h => h.of_same ⟨rfl, rfl⟩,
      fun _ _ h => h.of_same ⟨rfl, rfl⟩,
      fun _ _ _ _ _ h => h.onRequestCalls ((OnRequestCalls.refl _).odReq ..)⟩
  exact hclosed.pdHSm ⟨h.state, h.rwcmd, h.repeated, h.confirmed⟩

theorem modeClosed (dl₀ : Dl) : ModeClosed dl₀.GivenUp where
  ohConf _ h := h.onRequestCalls ((OnRequestCalls.refl _).od _).odHSm
  ihConf _ h := h.onRequestCalls ((OnRequestCalls.refl _).isdu _).isduHSm
  ehConf _ h := h.onRequestCalls (((OnRequestCalls.refl _).event fun _ => by rfl).evHSm)
  chConf _ h := h.onRequestCalls ((OnRequestCalls.refl _).cmd _).cmdHSm
  phConf _ h := h.phConf _
  mhConf _ h := messageHSm ⟨h.state, h.rwcmd, h.repeated, h.confirmed⟩
  mode _ h := h.of_same ⟨rfl, rfl⟩
  modeInd _ h := h.emit ⟨DlCall.noConfusion, rfl⟩

/-- The mode handler confirms nothing either. -/
theorem modeHSm (h : dl₀.GivenUp dl) : dl₀.GivenUp dl.modeHSm := (modeClosed dl₀).modeHSm h

end GivenUp

theorem Lost.messageHSm (h : dl.Lost) : dl.messageHSm.Lost := by
  rw [messageHSm_of_inactive0 h.state]
  exact ⟨h.state, h.mhinfo, h.mdhEvent⟩

end Dl

/-- What has happened since a message was sent for the first time; the log begins there. -/
structure Attempt where
  dl : Dl
  failures : ℕ := 0
  /-- COMLOST has been reported. -/
  comlost : Bool := false

namespace Attempt

/-- The input is an error while the handler waits, or a timeout while it handles one. -/
def Fails (a : Attempt) : LinkInput → Prop
  | .dl .rxerr | .dl .txerr => a.dl.Waits ∧ a.dl.Faulty
  | .dl .timeout => a.dl.HandlesError
  | _ => False

instance (a : Attempt) : (i : LinkInput) → Decidable (a.Fails i)
  | .dl .rxerr | .dl .txerr => inferInstanceAs (Decidable (a.dl.Waits ∧ a.dl.Faulty))
  | .dl .timeout => inferInstanceAs (Decidable a.dl.HandlesError)
  | .dl (.surroundings _) | .dl (.rxrdy _) | .dl .wurq | .dl .mdh | .dl .mh | .dl (.setMode _ _)
  | .dl (.read _) | .dl (.write _ _) | .dl (.writeDevicemode _) | .dl (.control _)
  | .dl (.pdOutputUpdate _) | .dl .eventConf | .dl .reset | .isduTransport _ | .readParam _
  | .writeParam _ _ => inferInstanceAs (Decidable False)

def step (a : Attempt) (i : LinkInput) : Attempt where
  dl := a.dl.linkStep i
  failures := a.failures + if a.Fails i then 1 else 0
  comlost := a.comlost || decide (a.dl.linkStep i).Lost

/-- An error, a timeout, an event of the handler's own, or a reply that comes when the handler does
not wait for one. The mode handler runs when communication has been lost. -/
def Unanswered (a : Attempt) : LinkInput → Prop
  | .dl (.surroundings _) | .dl .rxerr | .dl .txerr | .dl .timeout | .dl .mh => True
  | .dl (.rxrdy octets) => a.dl.Waits → a.dl.replyOf (.dl (.rxrdy octets)) = []
  | .dl .mdh => a.comlost = true
  | _ => False

instance (a : Attempt) : (i : LinkInput) → Decidable (a.Unanswered i)
  | .dl (.surroundings _) | .dl .rxerr | .dl .txerr | .dl .timeout | .dl .mh =>
    inferInstanceAs (Decidable True)
  | .dl (.rxrdy octets) =>
    inferInstanceAs (Decidable (a.dl.Waits → a.dl.replyOf (.dl (.rxrdy octets)) = []))
  | .dl .mdh => inferInstanceAs (Decidable (a.comlost = true))
  | .dl .wurq | .dl (.setMode _ _) | .dl (.read _) | .dl (.write _ _) | .dl (.writeDevicemode _)
  | .dl (.control _) | .dl (.pdOutputUpdate _) | .dl .eventConf | .dl .reset | .isduTransport _
  | .readParam _ | .writeParam _ _ => inferInstanceAs (Decidable False)

/-- Where the handler is with the message `dl₀` has sent: it waits, it handles an error and its
timer runs, or communication has been lost. -/
inductive Stage (dl₀ dl : Dl) (told : Bool) (failures : ℕ) : Prop
  | waits (hno : told = false) (h : dl₀.Pending dl) (hs : dl.Waits)
      (hf : failures ≤ 2 * dl.messageHandler.retry)
  | handles (hno : told = false) (h : dl₀.Pending dl) (hs : dl.HandlesError)
      (ht : dl.vars.timerType = .tinitcycMh) (hr : dl.objects.timerRunning = true)
      (hf : failures ≤ 2 * dl.messageHandler.retry + 1)
  | givenUp (h : dl₀.GivenUp dl) (hlost : told = true ∨ dl.Lost)

namespace Stage

variable {dl₀ dl dl' : Dl} {told : Bool} {n : ℕ}

/-- A change beside the message. -/
theorem of_same (h : Stage dl₀ dl told n) (hsame : dl.SameStage dl') : Stage dl₀ dl' told n := by
  have hmessage := hsame.message
  cases h with
  | waits hno h hs hf =>
    refine .waits hno (h.of_same hsame.toSameMessage) ?_ ?_
    · rw [Dl.Waits, hmessage]
      exact hs
    · rw [hmessage]
      exact hf
  | handles hno h hs ht hr hf =>
    refine .handles hno (h.of_same hsame.toSameMessage) ?_ (hsame.timerType.trans ht)
      (hsame.timerRunning.trans hr) ?_
    · rw [Dl.HandlesError, hmessage]
      exact hs
    · rw [hmessage]
      exact hf
  | givenUp h hlost =>
    exact .givenUp (h.of_same hsame.toSameMessage)
      (hlost.imp_right fun hlost => hlost.of_same hsame)

/-- A call while the handler waits: an error may be a failure. -/
theorem call_waits (hno : told = false) (h : dl₀.Pending dl) (hs : dl.Waits)
    (hready : dl.vars.dataready = false) {k : ℕ} (hn : n ≤ 2 * dl.messageHandler.retry)
    (hk : k ≤ if dl.errorReported then 1 else 0) : Stage dl₀ dl.messageHSm told (n + k) := by
  obtain ⟨hpending, hretry, htold, hsilent⟩ := Dl.messageHSm_of_waits h hs hready
  cases herror : dl.errorReported with
  | true =>
    obtain ⟨hhandles, htimer, hruns⟩ := htold herror
    refine .handles hno hpending hhandles htimer hruns ?_
    rw [herror, if_pos rfl] at hk
    rw [hretry]
    omega
  | false =>
    refine .waits hno hpending (hsilent herror) ?_
    rw [herror, if_neg Bool.false_ne_true] at hk
    rw [hretry]
    omega

/-- A call while the handler handles an error. When it is the timer that calls, this is a
failure. -/
theorem call_handles (hno : told = false) (h : dl₀.Pending dl) (hs : dl.HandlesError)
    (ht : dl.vars.timerType = .tinitcycMh) (hr : dl.repetitionDue = false →
      dl.objects.timerRunning = true) {k : ℕ} (hn : n ≤ 2 * dl.messageHandler.retry + 1)
    (hk : k ≤ if dl.repetitionDue then 1 else 0) : Stage dl₀ dl.messageHSm told (n + k) := by
  obtain ⟨hexhausted, hrepeated, hsilent⟩ := Dl.messageHSm_of_handlesError h hs
  by_cases hretry : dl.messageHandler.retry ≥ Dl.maxRetry
  · exact .givenUp (hexhausted hretry).1 (.inr (hexhausted hretry).2)
  rw [Nat.not_le] at hretry
  cases hdue : dl.repetitionDue with
  | true =>
    obtain ⟨hpending, hnext, hwaits⟩ := hrepeated hretry hdue
    refine .waits hno hpending hwaits ?_
    rw [hdue, if_pos rfl] at hk
    rw [hnext]
    omega
  | false =>
    rw [hsilent hretry hdue]
    rw [hdue, if_neg Bool.false_ne_true] at hk
    exact .handles hno h hs ht (hr hdue) (by omega)

theorem call_givenUp (h : dl₀.GivenUp dl) (hlost : told = true ∨ dl.Lost) :
    Stage dl₀ dl.messageHSm told n := .givenUp h.messageHSm (hlost.imp_right Dl.Lost.messageHSm)

/-- A reply. -/
theorem rxrdy (h : Stage dl₀ dl told n) (octets : List Octet)
    (hok : dl.Waits → dl.replyOf (.dl (.rxrdy octets)) = []) :
    Stage dl₀ (dl.rxrdy octets) told n := by
  rw [Dl.rxrdy_eq]
  split_ifs with hempty
  · exact h
  generalize dl.replyOf (.dl (.rxrdy octets)) = os at hempty hok
  have hstored : Stage dl₀ (dl.takeReply os) told n := h.of_same ⟨⟨rfl, rfl⟩, rfl, rfl, rfl, rfl⟩
  have hcalled : Stage dl₀ (dl.takeReply os).messageHSm told n := by
    cases hstored with
    | waits _ _ hs _ =>
      rw [hok hs] at hempty
      exact absurd rfl hempty
    | handles hno h hs ht hr hf => exact call_handles hno h hs ht (fun _ => hr) hf (Nat.zero_le _)
    | givenUp h hlost => exact call_givenUp h hlost
  exact hcalled.of_same ⟨⟨rfl, rfl⟩, rfl, rfl, rfl, rfl⟩

/-- An error event. -/
theorem handleError (h : Stage dl₀ dl told n) (hclear : dl.Clear) :
    Stage dl₀ dl.handleError told (n + if dl.Waits ∧ dl.Faulty then 1 else 0) := by
  obtain ⟨v, hv, hready, htimer, -, hset⟩ := dl.readErrors_frame
  have hread : Stage dl₀ (dl.modVars fun _ => v) told n :=
    h.of_same ⟨⟨rfl, rfl⟩, rfl, rfl, htimer, rfl⟩
  have hfaulty : (dl.modVars fun _ => v).errorReported = true ↔ dl.Faulty := by
    refine hset.trans (or_iff_right ?_)
    rw [hclear.error]
    exact Bool.false_ne_true
  rw [Dl.handleError_eq, hv]
  by_cases herror : (dl.modVars fun _ => v).errorReported = true
  · rw [if_pos herror]
    have hcalled : Stage dl₀ (dl.modVars fun _ => v).messageHSm told
        (n + if dl.Waits ∧ dl.Faulty then 1 else 0) := by
      cases hread with
      | waits hno h hs hf =>
        refine call_waits hno h hs (hready.trans hclear.dataready) hf ?_
        rw [herror, if_pos rfl]
        split_ifs
        · exact Nat.le_refl 1
        · exact Nat.zero_le 1
      | handles hno h hs ht hr hf =>
        have hfails : ¬ (dl.Waits ∧ dl.Faulty) := fun hfails => hs.not_waits hfails.1
        refine call_handles hno h hs ht (fun _ => hr) hf ?_
        rw [if_neg hfails]
        exact Nat.zero_le _
      | givenUp h hlost => exact call_givenUp h hlost
    exact hcalled.of_same ⟨⟨rfl, rfl⟩, rfl, rfl, rfl, rfl⟩
  · rw [if_neg herror, if_neg fun hfails => herror (hfaulty.mpr hfails.2)]
    exact hread

/-- The timer expires, and its type is reset. -/
theorem timeout (h : Stage dl₀ dl told n) (hclear : dl.Clear) :
    Stage dl₀ (dl.modObjects ({ · with timerRunning := false })).handleTimerTimeout told
      (n + if dl.HandlesError then 1 else 0) := by
  obtain ⟨d, hd⟩ : ∃ d, d = (dl.modObjects ({ · with timerRunning := false })).modVars
    ({ · with timerElapsed := true }) := ⟨_, rfl⟩
  have hsame : dl.SameMessage d := by
    rw [hd]
    exact ⟨rfl, rfl⟩
  have htimeout : (dl.modObjects ({ · with timerRunning := false })).handleTimerTimeout =
      (if dl.vars.timerType = .tinitcycMh then
        d.messageHSm.modVars ({ · with timerElapsed := false })
        else dl.modObjects ({ · with timerRunning := false })).modVars
          ({ · with timerType := .none }) := by
    rw [hd]
    rfl
  rw [htimeout]
  cases h with
  | waits hno h hs hf =>
    rw [if_neg fun hhandles : dl.HandlesError => hhandles.not_waits hs]
    by_cases htimer : dl.vars.timerType = .tinitcycMh
    · rw [if_pos htimer]
      have hready : d.vars.dataready = false ∧ d.errorReported = false := by
        rw [hd]
        exact ⟨hclear.dataready, hclear.error⟩
      have hwaits : d.Waits := by
        rw [Dl.Waits, hsame.message]
        exact hs
      have hcall := Dl.messageHSm_of_waits (h.of_same hsame) hwaits hready.1
      have hretry := hcall.retry.trans (congrArg _ hsame.message)
      refine .waits hno (hcall.pending.of_same ⟨rfl, rfl⟩) (hcall.silent hready.2) ?_
      exact Nat.le_trans hf (Nat.le_of_eq (congrArg _ hretry.symm))
    · rw [if_neg htimer]
      exact .waits hno (h.of_same ⟨rfl, rfl⟩) hs hf
  -- A message that has failed is repeated by the timer, or given up when it has been often enough.
  | handles hno h hs ht hr hf =>
    rw [if_pos hs, if_pos ht]
    have hhandles : d.HandlesError := by
      rw [Dl.HandlesError, hsame.message]
      exact hs
    have hdue : d.repetitionDue = true := by
      rw [hd]
      exact decide_eq_true ht
    have hcall := Dl.messageHSm_of_handlesError (h.of_same hsame) hhandles
    by_cases hretry : d.messageHandler.retry ≥ Dl.maxRetry
    · obtain ⟨hgiven, hlost⟩ := hcall.exhausted hretry
      exact .givenUp (hgiven.of_same ⟨rfl, rfl⟩)
        (.inr ⟨hlost.state, hlost.mhinfo, hlost.mdhEvent⟩)
    · obtain ⟨hpending, hnext, hwaits⟩ := hcall.repeated (Nat.lt_of_not_le hretry) hdue
      refine .waits hno (hpending.of_same ⟨rfl, rfl⟩) hwaits ?_
      rw [hsame.message] at hnext
      change n + 1 ≤ 2 * d.messageHSm.messageHandler.retry
      rw [hnext]
      omega
  | givenUp h hlost =>
    by_cases htimer : dl.vars.timerType = .tinitcycMh
    · rw [if_pos htimer]
      have hcall := (h.of_same hsame).messageHSm
      refine .givenUp (hcall.of_same ⟨rfl, rfl⟩) (hlost.imp_right fun hlost => ?_)
      have hd' : d.Lost := by
        rw [hd]
        exact ⟨hlost.state, hlost.mhinfo, hlost.mdhEvent⟩
      exact ⟨hd'.messageHSm.state, hd'.messageHSm.mhinfo, hd'.messageHSm.mdhEvent⟩
    · rw [if_neg htimer]
      exact .givenUp (h.of_same ⟨rfl, rfl⟩)
        (hlost.imp_right fun hlost => ⟨hlost.state, hlost.mhinfo, hlost.mdhEvent⟩)

/-- A call without a reason. -/
theorem messageHSm (h : Stage dl₀ dl told n) (hclear : dl.Clear) :
    Stage dl₀ dl.messageHSm told n := by
  cases h with
  | waits hno h hs hf => exact call_waits hno h hs hclear.dataready hf (Nat.zero_le _)
  | handles hno h hs ht hr hf => exact call_handles hno h hs ht (fun _ => hr) hf (Nat.zero_le _)
  | givenUp h hlost => exact call_givenUp h hlost

/-- When communication has just been lost, COMLOST has been reported. -/
theorem report (h : Stage dl₀ dl told n) : Stage dl₀ dl (told || decide dl.Lost) n := by
  have hstill : ∀ {d : Dl}, d.Waits ∨ d.HandlesError → told = false →
      (told || decide d.Lost) = false := by
    intro d hs hno
    have hlost : ¬ d.Lost := by
      intro hlost
      obtain (hs | hs | hs | hs) | hs | hs := hs
      all_goals exact MhSt.noConfusion (hs.symm.trans hlost.state)
    rw [hno, decide_eq_false hlost]
    rfl
  cases h with
  | waits hno h hs hf => exact .waits (hstill (.inl hs) hno) h hs hf
  | handles hno h hs ht hr hf => exact .handles (hstill (.inr hs) hno) h hs ht hr hf
  | givenUp h hlost =>
    exact .givenUp h (hlost.imp_left fun htold => Bool.or_eq_true_iff.mpr (.inl htold))

end Stage

/-- **The invariant.** -/
structure Tracks (dl₀ : Dl) (a : Attempt) : Prop where
  stage : Stage dl₀ a.dl a.comlost a.failures
  clear : a.dl.Clear
  told : a.dl.Lost → a.comlost = true

namespace Tracks

variable {dl₀ : Dl} {a : Attempt}

/-- What an input does with the message. -/
theorem stage_linkStep (h : Tracks dl₀ a) {i : LinkInput} (hok : a.Unanswered i) :
    Stage dl₀ (a.dl.linkStep i) a.comlost (a.failures + if a.Fails i then 1 else 0) := by
  have hstage := h.stage
  cases i with
  | isduTransport vl => exact hok.elim
  | readParam address => exact hok.elim
  | writeParam address value => exact hok.elim
  | dl i =>
    cases i with
    | surroundings pl => exact hstage.of_same ⟨⟨rfl, rfl⟩, rfl, rfl, rfl, rfl⟩
    | rxrdy octets => exact hstage.rxrdy octets hok
    | rxerr => exact hstage.handleError h.clear
    | txerr => exact hstage.handleError h.clear
    | timeout => exact hstage.timeout h.clear
    | mh =>
      have hevent : Stage dl₀ (a.dl.modObjects ({ · with mhEvent := false })) a.comlost
          a.failures := hstage.of_same ⟨⟨rfl, rfl⟩, rfl, rfl, rfl, rfl⟩
      change Stage dl₀ (if a.dl.objects.mhEvent then _ else _) a.comlost a.failures
      split
      · exact hevent.messageHSm ⟨h.clear.dataready, h.clear.error⟩
      · exact hstage
    | mdh =>
      cases hstage with
      | waits hno h hs hf => exact Bool.noConfusion (hno.symm.trans hok)
      | handles hno h hs ht hr hf => exact Bool.noConfusion (hno.symm.trans hok)
      | givenUp h hlost =>
        have hevent : dl₀.GivenUp (a.dl.modObjects ({ · with mdhEvent := false })) :=
          h.of_same ⟨rfl, rfl⟩
        change Stage dl₀ (if a.dl.objects.mdhEvent then _ else _) a.comlost a.failures
        split
        · exact .givenUp hevent.modeHSm (.inl hok)
        · exact .givenUp h (.inl hok)
    | _ => exact hok.elim

/-- **The step lemma.** -/
theorem step (h : Tracks dl₀ a) {i : LinkInput} (hok : a.Unanswered i) : Tracks dl₀ (a.step i) where
  stage := (h.stage_linkStep hok).report
  clear := Dl.Clear.threadClosed.linkStep h.clear i
  told hlost := Bool.or_eq_true_iff.mpr (.inr (decide_eq_true hlost))

end Tracks

/-- The message that has just been sent. -/
def start (dl : Dl) : Attempt where
  dl := dl.unlogged

/-- Initially nothing has been repeated. -/
theorem tracks_start {dl : Dl} (hcounted : dl.Counted) (hclear : dl.Clear) (hsent : dl.FirstSent)
    (haccess : dl.SentForAccess) : Tracks dl (start dl) := by
  have hretry := hcounted.first hsent
  have hwaits : dl.Waits := hsent.elim .inl fun hs => .inr (.inr (.inl hs))
  have hpending : dl.Pending dl.unlogged := by
    refine ⟨rfl, fun hstartup => ?_, ?_, ?_, rfl⟩
    · obtain hs | hs := hsent
      · exact haccess hs
      · obtain hs' | hs' | hs' := hstartup
        all_goals exact MhSt.noConfusion (hs.symm.trans hs')
    · exact hretry.symm
    · exact Nat.le_trans (Nat.le_of_eq hretry) (Nat.zero_le _)
  refine ⟨.waits rfl hpending hwaits (Nat.zero_le _), ⟨hclear.dataready, hclear.error⟩,
    fun hlost => ?_⟩
  obtain hs | hs := hsent
  all_goals exact MhSt.noConfusion (hs.symm.trans hlost.state)

/-- What the message comes to when it is not answered; `cnf` confirms the pending access. -/
structure Settles (cnf : List DlCall) (a : Attempt) : Prop where
  /-- The message is repeated `maxRetry` times at most. -/
  resent : a.dl.out.count .plResend ≤ Dl.maxRetry
  /-- Until COMLOST is reported, the handler waits for a reply or for its timer. -/
  waits : a.comlost = false → accessCnfs a.dl.out = [] ∧
    (a.dl.Waits ∨ a.dl.HandlesError ∧ a.dl.objects.timerRunning = true)
  /-- Afterwards it is inactive, and the access has been confirmed once. -/
  confirmed : a.comlost = true →
    a.dl.messageHandler.state = .inactive0 ∧ accessCnfs a.dl.out = cnf
  /-- Failures have an end. -/
  exhausted : 2 * (Dl.maxRetry + 1) ≤ a.failures → a.comlost = true

theorem Tracks.settles {dl₀ : Dl} {a : Attempt} (h : Tracks dl₀ a) :
    a.Settles dl₀.pendingCnf := by
  obtain ⟨hstage, -, htold⟩ := h
  cases hstage with
  | waits hno h hs hf =>
    have hbounded := h.bounded
    refine ⟨?_, fun _ => ⟨h.unconfirmed, .inl hs⟩,
      fun hyes => Bool.noConfusion (hno.symm.trans hyes), fun hmany => ?_⟩
    · rw [h.repeated]
      exact hbounded
    · omega
  | handles hno h hs ht hr hf =>
    have hbounded := h.bounded
    refine ⟨?_, fun _ => ⟨h.unconfirmed, .inr ⟨hs, hr⟩⟩,
      fun hyes => Bool.noConfusion (hno.symm.trans hyes), fun hmany => ?_⟩
    · rw [h.repeated]
      exact hbounded
    · omega
  | givenUp h hlost =>
    have hyes : a.comlost = true := hlost.elim id htold
    exact ⟨h.repeated, fun hno => Bool.noConfusion (hno.symm.trans hyes),
      fun _ => ⟨h.state, h.confirmed⟩, fun _ => hyes⟩

end Attempt

/-- The input has the message handler send a message for the first time, in STARTUP or in
PREOPERATE. -/
def Dl.Sends (dl : Dl) (i : LinkInput) : Prop := ¬ dl.FirstSent ∧ (dl.linkStep i).FirstSent

instance (dl : Dl) (i : LinkInput) : Decidable (dl.Sends i) := by unfold Dl.Sends; infer_instance

namespace Attempt

/-- **Repetitions are bounded and end in one negative confirmation.** -/
theorem retries_bounded (is : List LinkInput) :
    resends (Runs.run Dl.linkStep {} is).out ≤ Dl.maxRetry ∧
      ∀ i, (Runs.run Dl.linkStep {} is).Sends i →
        ∀ a, Runs.Reaches step Unanswered (start ((Runs.run Dl.linkStep {} is).linkStep i)) a →
          a.Settles ((Runs.run Dl.linkStep {} is).linkStep i).pendingCnf := by
  have hrun : Runs.Reaches Dl.linkStep (fun _ _ => True) {} (Runs.run Dl.linkStep {} is) :=
    Runs.reaches_run_true _ is
  have hcounted : (Runs.run Dl.linkStep {} is).Counted :=
    hrun.invariant Dl.Counted ⟨Nat.zero_le _, fun h => h.elim, fun h => absurd h (by decide)⟩
      fun _ i h _ => Dl.Counted.threadClosed.linkStep h i
  have hclear : (Runs.run Dl.linkStep {} is).Clear :=
    hrun.invariant Dl.Clear ⟨rfl, rfl⟩ fun _ i h _ => Dl.Clear.threadClosed.linkStep h i
  refine ⟨hcounted.bounded, fun i ⟨hbefore, hsent⟩ a ha => ?_⟩
  have haway : (Runs.run Dl.linkStep {} is).Away := fun hs => hbefore (.inl hs)
  have hstart := tracks_start (Dl.Counted.threadClosed.linkStep hcounted i)
    (Dl.Clear.threadClosed.linkStep hclear i) hsent (Dl.sentForAccess_linkStep haway i)
  exact (ha.invariant (Tracks _) hstart fun _ _ h hok => h.step hok).settles

/-- Communication is established, and System Management reads a parameter in STARTUP. -/
def readInStartup : List LinkInput := (OdRun.intoPreoperate 1).take 5 ++ [.dl (.read 5)]

/-- Three errors and three timeouts; a reply comes while an error is handled, and another one after
communication has been lost. -/
def unanswered : List LinkInput :=
  [.dl (.surroundings { cqerr := 0x01 }), .dl .rxerr, .dl .timeout, .dl .rxerr,
    .dl (.rxrdy [0x55, 0x00]), .dl .timeout, .dl .rxerr, .dl .timeout, .dl .mdh,
    .dl (.rxrdy [0x55, 0x00])]

/-- **A read that is given up.** It is confirmed once, with NO_COMM. -/
theorem retries_bounded_readInStartup :
    let dl := (Runs.run Dl.linkStep {} readInStartup).linkStep (.dl .mh)
    dl.pendingCnf = [.readCnf 0 .noComm] ∧
      6 ≤ (Runs.run step (start dl) unanswered).failures ∧
      (Runs.run step (start dl) unanswered).Settles dl.pendingCnf := by
  refine ⟨by decide +kernel, by decide +kernel, ?_⟩
  exact (retries_bounded readInStartup).2 (.dl .mh) (by decide +kernel) _
    (Runs.reaches_run (by decide +kernel))

end Attempt

end IolHat
