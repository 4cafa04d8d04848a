import IolHat.Application.Isolation

/-!
# The cyclic runs of the two ports

Each port has a function that is run after every process data cycle, `generic_run0` and
`generic_run1`. A run hands the output data of the port's command record on, reads the input data
into it, and brings a status record up to date. Both functions take the index of the status record
from the command record, where it is 0 until the first request for process data has arrived.

`keepsApart_iff` says in which sequences of connections and runs the ports leave the status of
each other alone and mark only complete inputs as valid: when the second port does not run before
its first request (or has nothing to overwrite), and no run takes a valid input of another length
than the one that has been asked for.
-/

namespace IolHat

open Octets

/-! ### Records -/

/-- The fields of a command record that a frame sets. -/
def IolCmd.header (c : IolCmd) : Octet × Octet × Octet × Octet :=
  (c.port, c.command, c.lenIn, c.lenOut)

/-- The fields of a status record that a run sets. -/
def IolStatus.pd (st : IolStatus) : Octet × Octet × Octet × Octet :=
  (st.pdInLength, st.pdInValid, st.pdOutLength, st.pdOutValid)

def IolStatus.clear (st : IolStatus) : IolStatus :=
  { st with pdInLength := 0, pdInValid := 0, pdOutLength := 0, pdOutValid := 0 }

theorem IolStatus.clear_eq_iff (st : IolStatus) : st.clear = st ↔ st.pd = (0, 0, 0, 0) := by
  constructor
  · intro h
    rw [← h]
    rfl
  · intro h
    obtain ⟨pdInValid, pdOutValid, _, _, pdInLength, pdOutLength, _, _, _, _⟩ := st
    obtain ⟨rfl, hpd⟩ := Prod.mk.inj h
    obtain ⟨rfl, hpd⟩ := Prod.mk.inj hpd
    obtain ⟨rfl, rfl⟩ := Prod.mk.inj hpd
    rfl

/-! ### Runs -/

/-- `IOLINK_PORT_QUALIFIER_INFO_PQ_INVALID` is not set. -/
def AppPdin.valid (input : AppPdin) : Bool := input.pqi &&& 0x80 = 0

/-- What a run finds out about its port. -/
structure RunView where
  /-- What `do_smi_pdin` copies, if `SMI_PDIn_req` is confirmed. -/
  pdIn : Option AppPdin := none
  /-- `SMI_PDInOut_req` is confirmed. -/
  pdInOut : Bool := true
  /-- What is on the stack in the place of `myData`. -/
  stack : Buffer Octet 256 := .fill 0

namespace RunView

/-- The octets `do_smi_pdin` delivers. -/
def data (view : RunView) : List Octet :=
  match view.pdIn with
  | some input => input.data
  | none => []

/-- `pdin_valid`, as `do_smi_pdin` leaves it. -/
def pdinValid (view : RunView) : Bool :=
  match view.pdIn with
  | some input => input.valid
  | none => false

end RunView

namespace Server

/-- The index of the status record that a command record names. Its port has been checked. -/
def statusIndex (c : IolCmd) : PortIndex := portOf c.port

def modStatus (s : Server) (q : PortIndex) (f : IolStatus → IolStatus) : Server :=
  s.setStatus q (f (s.status q))

/-- The output data of the command record are handed on. -/
def runOutput (p : PortIndex) (s : Server) : Server :=
  let c := s.cmd p
  let s := s.modStatus (statusIndex c) ({ · with pdOutLength := c.lenOut })
  if 0 < c.lenOut then
    (s.call (.pdOut p true (c.dataOut.slice 0 c.lenOut.toNat))).modStatus (statusIndex c)
      ({ · with pdOutValid := 1 })
  else s.modStatus (statusIndex c) ({ · with pdOutValid := 0 })

/-- The input data are read into the command record. -/
def runInput (p : PortIndex) (view : RunView) (s : Server) : Server :=
  let c := s.cmd p
  let s := s.modStatus (statusIndex c) ({ · with pdInLength := c.lenIn })
  if 0 < c.lenIn then
    let s := s.setCmd p { c with dataIn := c.dataIn.write 0 view.data }
    -- "Failed to get PDIn"
    if view.data.length ≠ c.lenIn.toNat then
      s.modStatus (statusIndex c) ({ · with pdInValid := 0 })
    else s
  else s

/-- The input data go to the history. -/
def pushHistory (p : PortIndex) (view : RunView) (s : Server) : Server :=
  let c := s.cmd p
  s.setQueue p ((s.queue p).push (view.stack.write 0 (c.dataIn.slice 0 c.lenIn.toNat)))

/-- The end of a run: `pdInValid` is set again, whatever `runInput` has found. -/
def runValid (p : PortIndex) (view : RunView) (s : Server) : Server :=
  let c := s.cmd p
  if ¬ view.pdInOut then s.modStatus (statusIndex c) ({ · with pdInValid := 0 })
  else if ¬ (0 < c.lenIn ∧ view.pdinValid) then
    s.modStatus (statusIndex c) ({ · with pdInValid := 0 })
  else (s.pushHistory p view).modStatus (statusIndex c) ({ · with pdInValid := 1 })

/-- `generic_run0` and `generic_run1`: `app_port->portnumber` is `p + 1`. -/
def genericRun (p : PortIndex) (view : RunView) (s : Server) : Server :=
  let c := s.cmd p
  -- "Wrong portumber!"
  if c.port.toNat ≠ p ∧ c.command ≠ Cmd.empty then s
  else ((s.runOutput p).runInput p view).runValid p view

/-- `generic_run0`, which `iolink_start_port` installs for port number 1. -/
def genericRun0 (view : RunView) (s : Server) : Server := genericRun (portOf 0) view s

/-- `generic_run1`, which it installs for the other port. -/
def genericRun1 (view : RunView) (s : Server) : Server := genericRun (portOf 1) view s

/-- `run_function`. -/
def runFunction (p : PortIndex) : RunView → Server → Server :=
  if p = portOf 0 then genericRun0 else genericRun1

theorem runFunction_eq (p : PortIndex) : runFunction p = genericRun p := by
  match p with
  | 0 => rfl
  | 1 => rfl

/-! ### What a run does -/

variable {s : Server} {p q : PortIndex} {view : RunView}

/-- The run is for the port that the command record names, or no request has arrived yet. -/
def Passes (p : PortIndex) (s : Server) : Prop :=
  (s.cmd p).port.toNat = p ∨ (s.cmd p).command = Cmd.empty

/-- The input of the run is taken as valid. -/
def TakesInput (p : PortIndex) (view : RunView) (s : Server) : Prop :=
  view.pdInOut = true ∧ 0 < (s.cmd p).lenIn ∧ view.pdinValid = true

instance : Decidable (TakesInput p view s) := inferInstanceAs (Decidable (_ ∧ _ ∧ _))

/-- The status record after a run. -/
def runStatus (p : PortIndex) (view : RunView) (s : Server) : IolStatus :=
  { s.status (statusIndex (s.cmd p)) with
    pdOutLength := (s.cmd p).lenOut
    pdOutValid := if 0 < (s.cmd p).lenOut then 1 else 0
    pdInLength := (s.cmd p).lenIn
    pdInValid := if TakesInput p view s then 1 else 0 }

/-- The command record after a run. -/
def runCmd (p : PortIndex) (view : RunView) (s : Server) : IolCmd :=
  { s.cmd p with
    dataIn := if 0 < (s.cmd p).lenIn then (s.cmd p).dataIn.write 0 view.data
      else (s.cmd p).dataIn }

theorem runOutput_shared (p : PortIndex) (s : Server) :
    (s.runOutput p).shared = { s.shared with
      status := Function.update s.status (statusIndex (s.cmd p))
        { s.status (statusIndex (s.cmd p)) with
          pdOutLength := (s.cmd p).lenOut
          pdOutValid := if 0 < (s.cmd p).lenOut then 1 else 0 } } := by
  have hwrite (t : Server) (hstatus : t.status = Function.update s.status (statusIndex (s.cmd p))
      { s.status (statusIndex (s.cmd p)) with pdOutLength := (s.cmd p).lenOut }) (v : Octet) :
      (t.modStatus (statusIndex (s.cmd p)) ({ · with pdOutValid := v })).status =
        Function.update s.status (statusIndex (s.cmd p))
          { s.status (statusIndex (s.cmd p)) with
            pdOutLength := (s.cmd p).lenOut, pdOutValid := v } := by
    show Function.update t.status _ _ = _
    rw [hstatus, Function.update_self, Function.update_idem]
  rw [runOutput]
  by_cases hout : 0 < (s.cmd p).lenOut
  · simp only [if_pos hout]
    exact congrArg (Shared.mk s.cmd · s.queue) (hwrite _ rfl 1)
  · simp only [if_neg hout]
    exact congrArg (Shared.mk s.cmd · s.queue) (hwrite _ rfl 0)

theorem runInput_shared (p : PortIndex) (view : RunView) (s : Server) :
    ∃ v, (s.runInput p view).shared =
      { cmd := Function.update s.cmd p (runCmd p view s)
        status := Function.update s.status (statusIndex (s.cmd p))
          { s.status (statusIndex (s.cmd p)) with pdInLength := (s.cmd p).lenIn, pdInValid := v }
        queue := s.queue } := by
  rw [runInput]
  by_cases hin : 0 < (s.cmd p).lenIn
  · have hcmd : runCmd p view s = { s.cmd p with
        dataIn := (s.cmd p).dataIn.write 0 view.data } := by rw [runCmd, if_pos hin]
    simp only [if_pos hin, hcmd]
    by_cases hlen : view.data.length ≠ (s.cmd p).lenIn.toNat
    · refine ⟨0, ?_⟩
      rw [if_pos hlen]
      have hstatus : ∀ st : IolStatus,
          Function.update (Function.update s.status (statusIndex (s.cmd p)) st)
              (statusIndex (s.cmd p)) { Function.update s.status (statusIndex (s.cmd p)) st
                (statusIndex (s.cmd p)) with pdInValid := 0 } =
            Function.update s.status (statusIndex (s.cmd p)) { st with pdInValid := 0 } := by
        intro st
        rw [Function.update_self, Function.update_idem]
      exact congrArg (Shared.mk _ · s.queue) (hstatus _)
    · refine ⟨(s.status (statusIndex (s.cmd p))).pdInValid, ?_⟩
      rw [if_neg hlen]
      rfl
  · have hcmd : runCmd p view s = s.cmd p := by rw [runCmd, if_neg hin]
    refine ⟨(s.status (statusIndex (s.cmd p))).pdInValid, ?_⟩
    simp only [if_neg hin, hcmd, Function.update_eq_self]
    rfl

theorem runValid_shared (p : PortIndex) (view : RunView) (s : Server) :
    (s.runValid p view).shared =
      { cmd := s.cmd
        status := Function.update s.status (statusIndex (s.cmd p))
          { s.status (statusIndex (s.cmd p)) with
            pdInValid := if TakesInput p view s then 1 else 0 }
        queue := if TakesInput p view s then
          Function.update s.queue p ((s.queue p).push (view.stack.write 0
            ((s.cmd p).dataIn.slice 0 (s.cmd p).lenIn.toNat))) else s.queue } := by
  rw [runValid]
  by_cases htakes : TakesInput p view s
  · have hin : ¬ ¬ (0 < (s.cmd p).lenIn ∧ view.pdinValid = true) := not_not.mpr htakes.2
    have hout : ¬ ¬ view.pdInOut = true := not_not.mpr htakes.1
    simp only [if_pos htakes, if_neg hin, if_neg hout]
    rfl
  · simp only [if_neg htakes]
    by_cases hout : ¬ view.pdInOut = true
    · rw [if_pos hout]
      rfl
    · have hin : ¬ (0 < (s.cmd p).lenIn ∧ view.pdinValid = true) :=
        fun h => htakes ⟨not_not.mp hout, h⟩
      rw [if_neg hout, if_pos hin]
      rfl

/-- **One run.** It changes the status record that the command record names, the input data of this
record, and the history. -/
theorem genericRun_shared (h : Passes p s) :
    (genericRun p view s).shared =
      { cmd := Function.update s.cmd p (runCmd p view s)
        status := Function.update s.status (statusIndex (s.cmd p)) (runStatus p view s)
        queue := if TakesInput p view s then
          Function.update s.queue p ((s.queue p).push (view.stack.write 0
            ((runCmd p view s).dataIn.slice 0 (s.cmd p).lenIn.toNat))) else s.queue } := by
  have hguard : ¬ ((s.cmd p).port.toNat ≠ p ∧ (s.cmd p).command ≠ Cmd.empty) := by
    rintro ⟨hport, hcommand⟩
    exact h.elim hport hcommand
  rw [genericRun]
  simp only [if_neg hguard]
  -- The output, the input and the validity are three pieces, each with its own lemma.
  have hout := runOutput_shared p s
  generalize s.runOutput p = s₁ at hout
  obtain ⟨hcmd₁, hstatus₁, hqueue₁⟩ := Shared.mk.inj hout
  have hcmd₁ : s₁.cmd = s.cmd := hcmd₁
  obtain ⟨v, hin⟩ := runInput_shared p view s₁
  generalize s₁.runInput p view = s₂ at hin
  obtain ⟨hcmd₂, hstatus₂, hqueue₂⟩ := Shared.mk.inj hin
  have hcmd : s₂.cmd p = runCmd p view s := by
    rw [hcmd₂, Function.update_self, runCmd, runCmd, hcmd₁]
  have htakes : TakesInput p view s₂ ↔ TakesInput p view s := by
    rw [TakesInput, hcmd]
    rfl
  have hindex : statusIndex (s₂.cmd p) = statusIndex (s.cmd p) := by
    rw [hcmd]
    rfl
  have hcmds : s₂.cmd = Function.update s.cmd p (runCmd p view s) := by
    rw [hcmd₂, runCmd, runCmd, hcmd₁]
  have hstatus : Function.update s₂.status (statusIndex (s.cmd p))
      { s₂.status (statusIndex (s.cmd p)) with
        pdInValid := if TakesInput p view s₂ then 1 else 0 } =
        Function.update s.status (statusIndex (s.cmd p)) (runStatus p view s) := by
    rw [hstatus₂, hcmd₁, hstatus₁]
    simp only [Function.update_self, Function.update_idem, htakes]
    rfl
  rw [runValid_shared, hindex, hcmd, hcmds, hstatus, hqueue₂, hqueue₁]
  simp only [htakes]
  rfl

/-! ### What a connection does -/

variable {b : Backend} {f : Frame}

theorem copyQueue_shared (lenIn : ℕ) (items : List (Buffer Octet 256)) (pos : ℕ) (s : Server) :
    (copyQueue lenIn items pos s).shared = s.shared := by
  induction items generalizing pos s with
  | nil => rfl
  | cons item items ih =>
    rw [copyQueue]
    exact ih _ _

/-- A command for a port changes only the records of this port: its command record, where the new
header names the port, its status record, but not what the runs write there, and its queue. -/
structure Serves (p : PortIndex) (s t : Server) : Prop where
  cmd : ∀ q ≠ p, t.cmd q = s.cmd q
  header : (t.cmd p).header = (s.cmd p).header ∨ (t.cmd p).port.toNat = p
  status : ∀ q, (t.status q).pd = (s.status q).pd
  queue : ∀ q ≠ p, t.queue q = s.queue q

namespace Serves

theorem of_shared {t : Server} (h : t.shared = s.shared) : Serves p s t := by
  obtain ⟨hcmd, hstatus, hqueue⟩ := Shared.mk.inj h
  exact ⟨fun q _ => congrFun hcmd q, .inl (congrArg IolCmd.header (congrFun hcmd p)),
    fun q => congrArg IolStatus.pd (congrFun hstatus q), fun q _ => congrFun hqueue q⟩

/-- The command record of a frame with process data has been written, and the queue copied. -/
theorem of_pd {t : Server} {c : IolCmd} {r : PdInQueue} (hc : c.port.toNat = p)
    (h : t.shared = ⟨Function.update s.cmd p c, s.status, Function.update s.queue p r⟩) :
    Serves p s t := by
  obtain ⟨hcmd, hstatus, hqueue⟩ := Shared.mk.inj h
  have hcmd : t.cmd = Function.update s.cmd p c := hcmd
  have hqueue : t.queue = Function.update s.queue p r := hqueue
  refine ⟨fun q hq => ?_, .inr ?_, fun q => congrArg IolStatus.pd (congrFun hstatus q),
    fun q hq => ?_⟩
  · rw [hcmd, Function.update_of_ne hq]
  · rw [hcmd, Function.update_self, hc]
  · rw [hqueue, Function.update_of_ne hq]

theorem of_cmd {t : Server} {c : IolCmd} (hc : c.port.toNat = p)
    (h : t.shared = { s.shared with cmd := Function.update s.cmd p c }) : Serves p s t := by
  refine of_pd (r := s.queue p) hc ?_
  rw [Function.update_eq_self]
  exact h

end Serves

theorem cmdPd_serves (b : Backend) (hport : (s.buffer.get 1).toNat = p) :
    Serves p s (s.cmdPd b p) := by
  rw [cmdPd]
  rcases Decidable.em (b.appPortState p = .running) with hrunning | hsio
  · rw [if_pos hrunning]
    exact .of_cmd hport ((sendBuffer_shared _ _).trans rfl)
  · rw [if_neg hsio]
    rcases Nat.eq_zero_or_pos (b.pdInData p).length with hzero | hpos
    · rcases Decidable.em (0 < (s.clearedPdCmd p).lenOut) with hout | hout
      · rw [pdSio_of_output hzero hout]
        exact .of_cmd hport ((sendBuffer_shared _ _).trans rfl)
      · rw [pdSio_of_neither hzero hout]
        exact .of_cmd hport ((sendBuffer_shared _ _).trans rfl)
    · rw [pdSio_of_input hpos]
      exact .of_cmd hport ((sendBuffer_shared _ _).trans rfl)

private theorem setQueue_shared {t : Server} {d : Shared} (h : t.shared = d) (q : PdInQueue) :
    (t.setQueue p q).shared = { d with queue := Function.update d.queue p q } := by
  rw [← h]
  rfl

/-- A running port's queue is cleared after its history has been sent. -/
theorem historyRunning_shared (p : PortIndex) (s : Server) :
    (s.historyRunning p).shared =
      ⟨Function.update s.cmd p (s.copyOut (s.clearedPdCmd p)), s.status,
        Function.update s.queue p .empty⟩ := by
  have hcopy := copyQueue_shared (s.copyOut (s.clearedPdCmd p)).lenIn.toNat
    (s.queue p).items 0 (s.setCmd p (s.copyOut (s.clearedPdCmd p)))
  rw [historyRunning]
  refine setQueue_shared (d := ⟨Function.update s.cmd p (s.copyOut (s.clearedPdCmd p)), s.status,
    s.queue⟩) ?_ .empty
  exact (sendBuffer_shared _ _).trans hcopy

theorem historySio_serves (b : Backend) (hport : (s.buffer.get 1).toNat = p) :
    Serves p s (s.historySio b p) := by
  rw [historySio]
  dsimp only
  split_ifs
  all_goals exact .of_cmd hport ((sendBuffer_shared _ _).trans rfl)

theorem cmdPdHistory_serves (b : Backend) (hport : (s.buffer.get 1).toNat = p) :
    Serves p s (s.cmdPdHistory b p) := by
  rw [cmdPdHistory]
  split_ifs
  · exact .of_pd hport (historyRunning_shared p s)
  · exact historySio_serves b hport

theorem cmdStatus_serves (b : Backend) (p : PortIndex) (s : Server) :
    Serves p s (s.cmdStatus b p) := by
  have hstatus (octets : List Octet) : Serves p s
      (((s.setStatus p (freshStatus b p (s.status p))).put 2 octets).sendBuffer
        (2 + octets.length)) := by
    have hshared :=
      sendBuffer_shared ((s.setStatus p (freshStatus b p (s.status p))).put 2 octets)
        (2 + octets.length)
    obtain ⟨hcmd, hstatus, hqueue⟩ := Shared.mk.inj hshared
    refine ⟨fun q _ => congrFun hcmd q, .inl (congrArg IolCmd.header (congrFun hcmd p)),
      fun q => ?_, fun q _ => congrFun hqueue q⟩
    refine (congrArg IolStatus.pd (congrFun hstatus q)).trans ?_
    show (Function.update s.status p (freshStatus b p (s.status p)) q).pd = _
    rcases Decidable.em (q = p) with rfl | hq
    · rw [Function.update_self]
      rfl
    · rw [Function.update_of_ne hq]
  exact hstatus _

theorem checked_serves (hle : s.buffer.get 1 ≤ 1) {body : Server → Server}
    (h : Serves p s (body s)) (lengthOk : Bool) : Serves p s (s.checked lengthOk body) := by
  rw [checked_eq hle]
  split_ifs
  · exact h
  · exact .of_shared (send_shared _ _)

theorem command_serves (hle : s.buffer.get 1 ≤ 1) (hport : (s.buffer.get 1).toNat = p)
    (b : Backend) (n : ℕ) :
    Serves p s (s.command b p n) := by
  rw [command]
  split_ifs
  · exact .of_shared (send_shared _ _)
  · exact checked_serves hle (.of_shared (sendBuffer_shared _ _)) _
  · exact checked_serves hle (.of_shared (sendBuffer_shared _ _)) _
  · exact checked_serves hle (cmdPd_serves b hport) _
  · exact checked_serves hle (cmdPdHistory_serves b hport) _
  · refine checked_serves hle (.of_shared ?_) _
    rw [cmdRead]
    split_ifs
    · exact send_shared _ _
    · split
      · exact sendBuffer_shared _ _
      · exact sendBuffer_shared _ _
  · refine checked_serves hle (.of_shared ?_) _
    rw [cmdWrite]
    split_ifs
    · exact send_shared _ _
    · exact sendBuffer_shared _ _
  · exact checked_serves hle (cmdStatus_serves b p s) _
  · exact .of_shared (send_shared _ _)

/-- **One connection.** -/
theorem handle_serves (b : Backend) (f : Frame) (s : Server) :
    Serves f.port s (s.handle b f) := by
  have hreceive (t : Server) (h : Serves f.port (s.receive f) t) :
      Serves f.port s t := ⟨h.cmd, h.header, h.status, h.queue⟩
  rw [handle]
  split_ifs with hstatus3 hshort hport
  · exact .of_shared (sendBuffer_shared _ _)
  · exact .of_shared (send_shared _ _)
  · exact .of_shared (send_shared _ _)
  · have hle : (s.receive f).buffer.get 1 ≤ 1 := UInt8.not_lt.mp hport
    have hoctet : (s.receive f).buffer.get 1 = octetOf f.octets 1 := s.get_receive f (by omega)
    have hframe : (s.receive f).port = f.port := by rw [port, Frame.port, hoctet]
    rw [hframe]
    refine hreceive _ (command_serves hle ?_ b _)
    rw [← hframe, port]
    exact toNat_eq_portOf hle

end Server

/-! ### Sequences of connections and runs -/

/-- What happens to the ports. -/
inductive PortStep
  /-- The server handles a connection. -/
  | connection (b : Backend) (f : Frame)
  /-- A process data cycle of a port is over. -/
  | run (p : PortIndex) (view : RunView)

namespace Server

def portStep (s : Server) : PortStep → Server
  | .connection b f => s.handle b f
  | .run p view => runFunction p view s

/-- The run reads exactly as many valid octets as asked for into the command buffer of its port. -/
def ReadsAll (p : PortIndex) (view : RunView) (s : Server) : Prop :=
  0 < (s.cmd p).lenIn ∧ ∃ input, view.pdIn = some input ∧ input.valid = true ∧
    input.data.length = (s.cmd p).lenIn.toNat ∧
    ((runFunction p view s).cmd p).dataIn.slice 0 (s.cmd p).lenIn.toNat = input.data

/-- A run leaves the status of the other port alone, and the one of its own port then shows a valid
input only if the run has read it. -/
def KeepsApart (s : Server) : PortStep → Prop
  | .connection _ _ => True
  | .run p view => (∀ q ≠ p, (runFunction p view s).status q = s.status q) ∧
      (((runFunction p view s).status p).pdInValid = 1 → ReadsAll p view s)

/-- The command record names the port, or what the run would write to the status of the first port
is there already; and no valid input has another length than the one asked for. -/
def Undisturbing (s : Server) : PortStep → Prop
  | .connection _ _ => True
  | .run p view => ((s.cmd p).port.toNat = p ∨ (s.status (portOf 0)).pd = (0, 0, 0, 0)) ∧
      (view.pdInOut = true → 0 < (s.cmd p).lenIn → ∀ input, view.pdIn = some input →
        input.valid = true → input.data.length = (s.cmd p).lenIn.toNat)

/-- No request for process data has arrived yet for a port. -/
structure Unasked (p : PortIndex) (s : Server) : Prop where
  header : (s.cmd p).header = (0, Cmd.empty, 0, 0)
  pdInValid : (s.status p).pdInValid = 0

/-- The command record of each port names it, as soon as a request has arrived. -/
def Addressed (s : Server) : Prop := ∀ p, (s.cmd p).port.toNat = p ∨ Unasked p s

variable {s : Server} {p q : PortIndex} {view : RunView}

theorem Unasked.port (h : Unasked p s) : (s.cmd p).port = 0 := congrArg Prod.fst h.header

theorem Unasked.command (h : Unasked p s) : (s.cmd p).command = Cmd.empty :=
  congrArg (fun header => header.2.1) h.header

theorem Unasked.lenIn (h : Unasked p s) : (s.cmd p).lenIn = 0 :=
  congrArg (fun header => header.2.2.1) h.header

theorem Unasked.lenOut (h : Unasked p s) : (s.cmd p).lenOut = 0 :=
  congrArg (fun header => header.2.2.2) h.header

theorem Addressed.passes (hs : Addressed s) (p : PortIndex) : Passes p s :=
  (hs p).imp_right Unasked.command

theorem statusIndex_of_named (h : (s.cmd p).port.toNat = p) : statusIndex (s.cmd p) = p := by
  have hle : (s.cmd p).port ≤ 1 := by
    rw [UInt8.le_iff_toNat_le, h]
    exact Nat.le_of_lt_succ p.isLt
  exact Fin.ext ((toNat_eq_portOf hle).symm.trans h)

theorem statusIndex_of_unasked (h : Unasked p s) : statusIndex (s.cmd p) = 0 := by
  rw [statusIndex, h.port]
  rfl

/-- The records after a run. -/
theorem runFunction_cmd (h : Passes p s) :
    (runFunction p view s).cmd = Function.update s.cmd p (runCmd p view s) := by
  rw [runFunction_eq]
  exact congrArg Shared.cmd (genericRun_shared h)

theorem runFunction_status (h : Passes p s) : (runFunction p view s).status =
    Function.update s.status (statusIndex (s.cmd p)) (runStatus p view s) := by
  rw [runFunction_eq]
  exact congrArg Shared.status (genericRun_shared h)

theorem runFunction_queue (h : Passes p s) : (runFunction p view s).queue =
    if TakesInput p view s then
      Function.update s.queue p ((s.queue p).push (view.stack.write 0
        ((runCmd p view s).dataIn.slice 0 (s.cmd p).lenIn.toNat))) else s.queue := by
  rw [runFunction_eq]
  exact congrArg Shared.queue (genericRun_shared h)

theorem runFunction_header (h : Passes p s) (view : RunView) (q : PortIndex) :
    ((runFunction p view s).cmd q).header = (s.cmd q).header := by
  rw [runFunction_cmd h]
  rcases Decidable.em (q = p) with rfl | hq
  · rw [Function.update_self]
    rfl
  · rw [Function.update_of_ne hq]

/-- A run does not write the status of a port without a request. -/
private theorem runFunction_pdInValid (hs : Addressed s) (hq : Unasked q s)
    (hport : (s.cmd q).port.toNat ≠ q) :
    ((runFunction p view s).status q).pdInValid = 0 := by
  have hne : q ≠ statusIndex (s.cmd p) := by
    rcases hs p with hnamed | hunasked
    · rw [statusIndex_of_named hnamed]
      rintro rfl
      exact hport hnamed
    · rw [statusIndex_of_unasked hunasked]
      rintro rfl
      rw [hq.port] at hport
      exact hport rfl
  rw [runFunction_status (hs.passes p), Function.update_of_ne hne]
  exact hq.pdInValid

theorem Addressed.step (hs : Addressed s) (i : PortStep) : Addressed (s.portStep i) := by
  intro q
  cases i with
  | connection b f =>
    have hserves := handle_serves b f s
    have hkept (hheader : ((s.handle b f).cmd q).header = (s.cmd q).header) :
        ((s.handle b f).cmd q).port.toNat = q ∨ Unasked q (s.handle b f) := by
      have hport : ((s.handle b f).cmd q).port = (s.cmd q).port := congrArg Prod.fst hheader
      have hvalid : ((s.handle b f).status q).pdInValid = (s.status q).pdInValid :=
        congrArg (fun pd => pd.2.1) (hserves.status q)
      rcases hs q with hnamed | hunasked
      · exact .inl (hport ▸ hnamed)
      · exact .inr ⟨hheader.trans hunasked.header, hvalid.trans hunasked.pdInValid⟩
    rcases Decidable.em (q = f.port) with rfl | hq
    · rcases hserves.header with hheader | hport
      · exact hkept hheader
      · exact .inl hport
    · exact hkept (congrArg IolCmd.header (hserves.cmd q hq))
  | run p view =>
    have hheader := runFunction_header (hs.passes p) view q
    have hport : ((runFunction p view s).cmd q).port = (s.cmd q).port := congrArg Prod.fst hheader
    rcases Decidable.em ((s.cmd q).port.toNat = q) with hnamed | hne
    · exact .inl (hport ▸ hnamed)
    · have hunasked := (hs q).resolve_left hne
      exact .inr ⟨hheader.trans hunasked.header, runFunction_pdInValid hs hunasked hne⟩

/-- A run that takes its input has read all of it exactly if it has the length asked for. -/
private theorem readsAll_iff (hs : Passes p s) (h : TakesInput p view s) :
    ReadsAll p view s ↔ ∀ input, view.pdIn = some input → input.valid = true →
      input.data.length = (s.cmd p).lenIn.toNat := by
  have hvalid := h.2.2
  rw [ReadsAll, and_iff_right h.2.1, runFunction_cmd hs, Function.update_self, runCmd,
    if_pos h.2.1]
  cases hin : view.pdIn with
  | none =>
    rw [RunView.pdinValid, hin] at hvalid
    exact absurd hvalid Bool.false_ne_true
  | some input =>
    rw [RunView.pdinValid, hin] at hvalid
    have hdata : view.data = input.data := by rw [RunView.data, hin]
    rw [hdata]
    constructor
    · rintro ⟨read, hread, -, hlen, -⟩ other hother -
      obtain rfl := Option.some.inj hread
      obtain rfl := Option.some.inj hother
      exact hlen
    · intro hall
      have hlen := hall input rfl hvalid
      have hfits : input.data.length ≤ 256 := input.length_le.trans (by decide)
      refine ⟨input, rfl, hvalid, hlen, ?_⟩
      rw [← hlen]
      exact Buffer.slice_zero_write _ hfits

theorem runStatus_pdInValid_iff :
    (runStatus p view s).pdInValid = 1 ↔ TakesInput p view s := by
  rw [runStatus]
  rcases Decidable.em (TakesInput p view s) with htakes | htakes
  · rw [if_pos htakes]
    exact iff_of_true rfl htakes
  · rw [if_neg htakes]
    exact iff_of_false (show ¬ (0 : Octet) = 1 by decide) htakes

/-- Before the first request a run clears what the runs set. -/
theorem runStatus_eq_iff_of_unasked (h : Unasked p s) (view : RunView) :
    runStatus p view s = s.status 0 ↔ (s.status 0).pd = (0, 0, 0, 0) := by
  have htakes : ¬ TakesInput p view s := by
    rintro ⟨-, hin, -⟩
    rw [h.lenIn] at hin
    exact absurd hin (by decide)
  have hclear : runStatus p view s = (s.status 0).clear := by
    rw [runStatus, if_neg htakes, statusIndex_of_unasked h, h.lenIn, h.lenOut]
    rfl
  rw [hclear, IolStatus.clear_eq_iff]

theorem keepsApart_step_iff (hs : Addressed s) (i : PortStep) :
    KeepsApart s i ↔ Undisturbing s i := by
  cases i with
  | connection b f => exact Iff.rfl
  | run p view =>
    rw [KeepsApart, Undisturbing, runFunction_status (hs.passes p)]
    rcases Decidable.em ((s.cmd p).port.toNat = p) with hnamed | hne
    · -- the run writes the status of its own port
      have hother : ∀ q ≠ p, Function.update s.status (statusIndex (s.cmd p))
          (runStatus p view s) q = s.status q := by
        intro q hq
        rw [statusIndex_of_named hnamed, Function.update_of_ne hq]
      rw [and_iff_right hother, and_iff_right (.inl hnamed), statusIndex_of_named hnamed,
        Function.update_self, runStatus_pdInValid_iff]
      constructor
      · intro h hout hin input hpdIn hvalid
        have htakes : TakesInput p view s := by
          refine ⟨hout, hin, ?_⟩
          rw [RunView.pdinValid, hpdIn]
          exact hvalid
        exact (readsAll_iff (hs.passes p) htakes).mp (h htakes) input hpdIn hvalid
      · intro h htakes
        exact (readsAll_iff (hs.passes p) htakes).mpr (h htakes.1 htakes.2.1)
    · -- the run writes the status of the first port
      have hunasked := (hs p).resolve_left hne
      have hp : p ≠ 0 := by
        rintro rfl
        exact hne (congrArg UInt8.toNat hunasked.port)
      have hpdInValid : Function.update s.status (statusIndex (s.cmd p)) (runStatus p view s) p =
          s.status p := by
        rw [statusIndex_of_unasked hunasked, Function.update_of_ne hp]
      have hlenIn : ¬ 0 < (s.cmd p).lenIn := by
        rw [hunasked.lenIn]
        decide
      have hfirst : portOf 0 = 0 := rfl
      rw [hpdInValid, hunasked.pdInValid, or_iff_right hne, hfirst,
        ← runStatus_eq_iff_of_unasked hunasked view, statusIndex_of_unasked hunasked]
      refine and_congr ?_ ?_
      · constructor
        · intro h
          rw [← h 0 hp.symm, Function.update_self]
        · rintro h q -
          rw [h, Function.update_eq_self]
      · exact iff_of_true (fun h => absurd h (by decide)) fun _ hin => absurd hin hlenIn

/-- **The ports keep apart** in exactly the sequences whose runs are undisturbing. -/
theorem keepsApart_iff (steps : List PortStep) :
    Runs.Admissible portStep KeepsApart {} steps ↔
      Runs.Admissible portStep Undisturbing {} steps := by
  have hstart : Addressed {} := by
    intro p
    exact .inr ⟨rfl, rfl⟩
  exact Runs.admissible_iff_of_invariant (I := Addressed) (fun _ i hs => keepsApart_step_iff hs i)
    (fun _ i hs _ => hs.step i) hstart steps

/-- A request for one octet of output and three of input. -/
private def firstRequest : Frame := ⟨[Cmd.pd, 0, 1, 3, 7], Nat.le_of_ble_eq_true rfl⟩

/-- **The second port clears the status of the first.** Process data are exchanged with the first
port; then the second port has its first run. -/
theorem not_keepsApart_secondPort :
    ¬ Runs.Admissible portStep KeepsApart {}
      [.connection (.quiet .running) firstRequest, .run 0 {}, .run 1 {}] := by
  rintro ⟨-, -, hrun, -⟩
  have hlength := congrArg IolStatus.pdOutLength (hrun.1 0 (by decide))
  exact absurd hlength (by decide +kernel)

/-- **An input that is too short is valid.** Three octets are asked for, and the device has two. -/
theorem not_keepsApart_shortInput :
    ¬ Runs.Admissible portStep KeepsApart {} [.connection (.quiet .running) firstRequest,
      .run 0 { pdIn := some ⟨0, [1, 2], Nat.le_of_ble_eq_true rfl⟩ }] := by
  rintro ⟨-, hrun, -⟩
  obtain ⟨-, input, hinput, -, hlength, -⟩ := hrun.2 (by decide +kernel)
  obtain rfl := Option.some.inj hinput
  exact absurd hlength (by decide +kernel)

end Server

end IolHat
