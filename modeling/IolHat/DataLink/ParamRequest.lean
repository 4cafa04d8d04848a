import IolHat.DataLink.Thread
import IolHat.DataLink.Quiescence
import IolHat.DataLink.IsduSegmentation
import IolHat.Lib.Run

/-!
# Does a refused direct parameter request leave a trace?

`DL_ReadParam_req` and `DL_WriteParam_req` store their command before they check the state and the
address. A request that is refused has been confirmed negatively then, and nothing should be left
of it: `LeavesNoTrace` says that the layer is in the same state, has made this one confirmation, and
will answer every later sequence of inputs as if there had been no request.

`leavesNoTrace_iff` says when this is so: when the request is accepted, or when the same command was
stored already. Otherwise the handlers find the command in a later message.
-/

namespace IolHat

/-- A direct parameter request. -/
inductive ParamReq
  | read (address : UInt16)
  | write (address : UInt16) (value : Octet)
  deriving DecidableEq

namespace ParamReq

def address : ParamReq → UInt16
  | read address => address
  | write address _ => address

/-- The command it stores. -/
def rwcmd : ParamReq → MHRWCmd
  | read _ => .readparam
  | write _ _ => .writeparam

def input : ParamReq → LinkInput
  | read address => .readParam address
  | write address value => .writeParam address value

/-- The negative confirmation. -/
def refusal (errinfo : Status) : ParamReq → DlCall
  | read _ => .readParamCnf 0 errinfo
  | write _ _ => .writeParamCnf errinfo

end ParamReq

namespace Dl

/-- A direct parameter request, with its return value. -/
def paramReq (dl : Dl) : ParamReq → IolinkError × Dl
  | .read address => dl.readParamReq address
  | .write address value => dl.writeParamReq address value

/-- The layer apart from its log. -/
def unlogged (dl : Dl) : Dl := { dl with out := [] }

/-- One input, from an empty log. -/
def react (dl : Dl) (i : LinkInput) : Dl := dl.unlogged.linkStep i

/-- The calls that an input makes. -/
def callsOf (dl : Dl) (i : LinkInput) : List DlCall := (dl.react i).out

/-- What a refused request should do. -/
structure LeavesNoTrace (dl : Dl) (r : ParamReq) : Prop where
  /-- There is one confirmation, and it is negative. -/
  confirmed : ∃ errinfo, errinfo ≠ Status.noError ∧ dl.callsOf r.input = [r.refusal errinfo]
  state : (dl.react r.input).unlogged = dl.unlogged
  /-- Whatever comes later is answered as without the request. -/
  later : ∀ is : List LinkInput,
    Runs.trace react callsOf (dl.react r.input) is = Runs.trace react callsOf dl is

/-- The request passes both checks. -/
def Accepts (dl : Dl) (r : ParamReq) : Prop :=
  (dl.messageHandler.state = .preoperate6 ∨ dl.messageHandler.state = .awReply16) ∧
    r.address ≤ 31

variable {dl dl' : Dl} {r : ParamReq}

/-- Nothing depends on what the log has. -/
theorem trace_congr (h : dl.unlogged = dl'.unlogged) (is : List LinkInput) :
    Runs.trace react callsOf dl is = Runs.trace react callsOf dl' is := by
  cases is with
  | nil => rfl
  | cons i is => rw [Runs.trace_cons, Runs.trace_cons, callsOf, callsOf, react, react, h]

theorem linkStep_input (dl : Dl) (r : ParamReq) : dl.linkStep r.input = (dl.paramReq r).2 := by
  cases r <;> rfl

/-! ### One request -/

/-- The command is stored. -/
private def stored (dl : Dl) (write : Bool) : Dl :=
  dl.modMessage ({ · with rwcmd := if write then .writeparam else .readparam })

section

variable {address : UInt16} {value : Octet} {write : Bool}

/-- The state refuses every request. -/
private theorem refused_of_state (h : dl.messageHandler.state ≠ .preoperate6 ∧
    dl.messageHandler.state ≠ .awReply16) : dl.readWriteParamReq address value write =
      (.stateInvalid, (dl.stored write).refuseParam write .stateConflict) := by
  rw [readWriteParamReq, modMessage_messageHandler, if_pos h]
  rfl

/-- The address is out of range. -/
private theorem refused_of_address (h : ¬ (dl.messageHandler.state ≠ .preoperate6 ∧
    dl.messageHandler.state ≠ .awReply16)) (haddress : 31 < address) :
    dl.readWriteParamReq address value write =
      (.addressInvalid, (dl.stored write).refuseParam write .valueOutOfRange) := by
  rw [readWriteParamReq, modMessage_messageHandler, if_neg h, if_pos haddress]
  rfl

private theorem accepted (h : ¬ (dl.messageHandler.state ≠ .preoperate6 ∧
    dl.messageHandler.state ≠ .awReply16)) (haddress : ¬ 31 < address) :
    (dl.readWriteParamReq address value write).1 = .none := by
  rw [readWriteParamReq, modMessage_messageHandler, if_neg h, if_neg haddress]

end

/-- The state after a request that has been refused. -/
private def refusedBy (dl : Dl) (r : ParamReq) (errinfo : Status) : Dl :=
  (dl.modMessage ({ · with rwcmd := r.rwcmd })).emit (r.refusal errinfo)

/-- A request passes the checks, or it is confirmed negatively and its command stays. -/
theorem paramReq_cases (dl : Dl) (r : ParamReq) :
    dl.Accepts r ∧ (dl.paramReq r).1 = .none ∨
      ¬ dl.Accepts r ∧ (dl.paramReq r).1 ≠ .none ∧
        ∃ errinfo, errinfo ≠ Status.noError ∧ (dl.paramReq r).2 = dl.refusedBy r errinfo := by
  by_cases hstate : dl.messageHandler.state ≠ .preoperate6 ∧ dl.messageHandler.state ≠ .awReply16
  · refine .inr ⟨fun h => h.1.elim hstate.1 hstate.2, ?_, .stateConflict, by decide, ?_⟩
    · cases r <;> exact fun h => IolinkError.noConfusion
        ((congrArg Prod.fst (refused_of_state hstate)).symm.trans h)
    · cases r <;> exact congrArg Prod.snd (refused_of_state hstate)
  by_cases haddress : 31 < r.address
  · refine .inr ⟨fun h => UInt16.not_le.mpr haddress h.2, ?_, .valueOutOfRange, by decide, ?_⟩
    · cases r <;> exact fun h => IolinkError.noConfusion
        ((congrArg Prod.fst (refused_of_address hstate haddress)).symm.trans h)
    · cases r <;> exact congrArg Prod.snd (refused_of_address hstate haddress)
  · refine .inl ⟨⟨?_, UInt16.not_lt.mp haddress⟩, ?_⟩
    · by_contra hno
      exact hstate (not_or.mp hno)
    · cases r <;> exact accepted hstate haddress

/-- **What a refused request leaves**, for every state, address and value: nothing, exactly when the
request is not refused, or when its command is the one that the layer has anyway. -/
theorem leavesNoTrace_iff (dl : Dl) (r : ParamReq) :
    ((dl.paramReq r).1 ≠ .none → dl.LeavesNoTrace r) ↔
      dl.Accepts r ∨ dl.messageHandler.rwcmd = r.rwcmd := by
  obtain ⟨haccepts, hnone⟩ | ⟨haccepts, hne, -⟩ := paramReq_cases dl r
  · exact iff_of_true (fun h => absurd hnone h) (.inl haccepts)
  -- the same request with an empty log
  obtain ⟨haccepts', -⟩ | ⟨-, -, errinfo, herr, hrefused⟩ := paramReq_cases dl.unlogged r
  · exact absurd haccepts' haccepts
  have hreact : dl.react r.input = dl.unlogged.refusedBy r errinfo :=
    (linkStep_input dl.unlogged r).trans hrefused
  rw [or_iff_right haccepts]
  constructor
  · intro h
    have hstate := congrArg (fun dl => Dl.messageHandler dl |>.rwcmd) (h hne).state
    rw [hreact] at hstate
    exact hstate.symm
  · intro hrwcmd _
    have hsame : (dl.react r.input).unlogged = dl.unlogged := by
      rw [hreact, refusedBy, ← hrwcmd]
      rfl
    exact ⟨⟨errinfo, herr, congrArg Dl.out hreact⟩, hsame, trace_congr hsame⟩

/-! ### A trace that is left -/

/-- A master command is about to be sent in PREOPERATE. -/
def beforeMasterCommand : List LinkInput :=
  OdRun.intoPreoperate 1 ++ [.dl (.writeDevicemode .operate), .dl .mh]

/-- The master command is sent and answered, and the port goes to OPERATE. -/
def afterMasterCommand : List LinkInput :=
  [.dl .timeout, .dl (.rxrdy [0x00, 0x00]), .dl (.setMode .operate cyclicVl), .dl .mdh,
    .dl .timeout, .dl (.rxrdy [0x55, 0x00, 0x00])]

/-- **A refused read is carried out later.** It is refused while the master command is waiting. The
first message of OPERATE then reads a direct parameter, where there would be an empty ISDU message
without the request, and its answer is a second confirmation. -/
theorem refused_read_sent :
    ∃ dl, dl = Runs.run linkStep {} beforeMasterCommand ∧
      (dl.paramReq (.read 5)).1 = .stateInvalid ∧
      dl.callsOf (.readParam 5) = [.readParamCnf 0 .stateConflict] ∧
      Runs.trace react callsOf (dl.react (.readParam 5)) afterMasterCommand =
        [.plTransferReq 1 3 [0x20, 0x40, 0x99], .writeDevicemodeCnf .noError 0x99,
          .modeInd .operate, .plEnableCycleTimer, .plTransferReq 3 2 [0xA0, 0x80],
          .controlInd .valid, .pdInputTransportInd (.rxbuffer 1 1) [0x00],
          .readParamCnf 0x55 .noError, .plMessageDownloadReq 3 2 [0xF1, 0x80]] ∧
      Runs.trace react callsOf dl afterMasterCommand =
        [.plTransferReq 1 3 [0x20, 0x40, 0x99], .writeDevicemodeCnf .noError 0x99,
          .modeInd .operate, .plEnableCycleTimer, .plTransferReq 3 2 [0xF1, 0x80],
          .controlInd .valid, .pdInputTransportInd (.rxbuffer 1 1) [0x00],
          .plMessageDownloadReq 3 2 [0xF1, 0x80]] ∧
      ¬ dl.LeavesNoTrace (.read 5) := by
  refine ⟨_, rfl, by decide +kernel, by decide +kernel, by decide +kernel, by decide +kernel, ?_⟩
  intro h
  have hstate := congrArg (fun dl => Dl.messageHandler dl |>.rwcmd) h.state
  exact absurd hstate (by decide +kernel)

end Dl

end IolHat
