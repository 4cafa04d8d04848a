import IolHat.Application.DeviceOutput
import IolHat.DataLink.OutputMemory
import IolHat.DataLink.ParamRequest

/-!
# Requests for process data

Process Data Exchange (`iolink_pde.c`) answers the requests of the application for process data:
`SMI_PDIn`, `SMI_PDOut` and `SMI_PDInOut`. What it answers is made of several parts: the octets that
the data link layer has indicated last and the application layer keeps, the quality that the device
and the Configuration Manager report, the output octets in the data link layer, and what the layer
itself remembers. Each has its own thread that writes it, and no mutex protects them all.

`PdExchange` is all of this, with the data link layer as it is. A step of a thread that has made a
request is one access to what the threads share (`RequestPc`); what one of the two mutexes protects
is one access.
-/

namespace IolHat

open Octets

/-! ### Requests and answers -/

/-- A request for process data. -/
inductive ExchangeRequest
  | pdIn (exp ref : ArgBlockId) (argBlockLen : ℕ)
  | pdOut (exp : ArgBlockId) (argBlockLen : ℕ) (argBlock : ArgBlockPdout)
  | pdInOut (exp ref : ArgBlockId) (argBlockLen : ℕ)

namespace ExchangeRequest

/-- The expected arg block. -/
def exp : ExchangeRequest → ArgBlockId
  | .pdIn exp _ _ | .pdOut exp _ _ | .pdInOut exp _ _ => exp

/-- The arg block that is sent. -/
def ref : ExchangeRequest → ArgBlockId
  | .pdIn _ ref _ | .pdInOut _ ref _ => ref
  | .pdOut _ _ argBlock => argBlock.id

/-- What `pde_check_smi_req` finds in the arg block, with the values of each request. -/
def blockError : ExchangeRequest → SmiErrorType
  | .pdIn exp ref argBlockLen =>
    Pde.blockError exp ref argBlockLen ArgBlockId.pdIn ArgBlockId.voidBlock 2 2
  | .pdOut exp argBlockLen argBlock =>
    Pde.blockError exp argBlock.id argBlockLen ArgBlockId.voidBlock ArgBlockId.pdOut
      (sizeofArgBlockPdoutHead + 1) sizeofArgBlockPdout
  | .pdInOut exp ref argBlockLen =>
    Pde.blockError exp ref argBlockLen ArgBlockId.pdInOut ArgBlockId.voidBlock 2 2

end ExchangeRequest

/-- What the application is told. -/
inductive ExchangeAnswer
  /-- `iolink_smi_voidblock_cnf` or `iolink_smi_joberror_ind`. -/
  | smi (a : SmiAnswer)
  /-- `arg_block_pdin_t`. -/
  | pdIn (id : ArgBlockId) (portQualifierInfo : Octet) (data : List Octet)
  /-- `arg_block_pdinout_t`. -/
  | pdInOut (id : ArgBlockId) (portQualifierInfo : Octet) (oe : Bool) (data : List Octet)
  deriving DecidableEq

/-- The answer is not an error. -/
def ExchangeAnswer.Confirms : ExchangeAnswer → Prop
  | .smi (.joberror _ _ _) => False
  | _ => True

/-- What happens at a port. -/
inductive ExchangeEntry
  /-- `DL_PDInputTransport_ind`. -/
  | indicated (data : List Octet)
  /-- `AL_Control_ind`. -/
  | control (controlcode : ControlCode)
  /-- The Configuration Manager changes the port info. -/
  | portStatus (status : PortStatusInfo)
  | portQuality (quality : Octet)
  /-- `PD_Start`. -/
  | activated
  /-- The two writes of `PD_Stop`. -/
  | disabled
  | deactivated
  /-- A thread has `write_do` called. -/
  | written (thread : ℕ) (b : Bool)
  /-- `DL_PDOutputUpdate_req` takes this many octets of a thread. -/
  | updated (thread : ℕ) (data : List Octet) (length : ℕ)
  /-- A thread writes `output_enable`. -/
  | enabled (thread : ℕ) (oe : Bool)
  /-- `iolink_dl_reset`. -/
  | reset
  | called (thread : ℕ) (request : ExchangeRequest)
  | answered (thread : ℕ) (request : ExchangeRequest) (answer : ExchangeAnswer)
  /-- The function of the request returns. -/
  | returned (thread : ℕ) (request : ExchangeRequest) (error : IolinkError)

/-- The answer of an entry, if it is one. -/
def ExchangeEntry.answerOf : ExchangeEntry → Option ExchangeAnswer
  | .answered _ _ a => some a
  | _ => none

/-! ### The port -/

/-- `IOLINK_PORT_QUALITY_INFO_INVALID`. -/
abbrev portQualityInfoInvalid : Octet := 0x01

/-- `IOLINK_PORT_QUALITY_INFO_PDO_INVALID`. -/
abbrev portQualityInfoPdoInvalid : Octet := 0x02

/-- `pde_port_quality_to_qualifier`. -/
def portQualityToQualifier (portQualityInfo : Octet) : Octet :=
  if portQualityInfo &&& portQualityInfoInvalid ≠ 0 then 0x80 else 0

/-- What `AL_Control_ind` makes of the quality of a port; `none` is its failing assertion. -/
def alControlInd (portQualityInfo : Octet) : ControlCode → Option Octet
  | .valid => some (portQualityInfo &&& ~~~portQualityInfoInvalid)
  | .invalid => some (portQualityInfo ||| portQualityInfoInvalid)
  | .pdoutvalid => some (portQualityInfo &&& ~~~portQualityInfoPdoInvalid)
  | .pdoutinvalid => some (portQualityInfo ||| portQualityInfoPdoInvalid)
  | .none | .devicemode => none

/-- `DL_PDOutputUpdate_req` behind its check: what the mutex of the data link layer protects. -/
def Dl.pdOutputCopy (dl : Dl) (outputdata : List Octet) : Dl :=
  let len := dl.pdHandler.pdTxlen
  let dl := dl.access .pdoutdata (len ≤ pdMaxSize)
  let dl := dl.modPd fun h => { h with pdoutdata := h.pdoutdata.write 0 (outputdata.take len) }
  if len % 2 = 1 then
    let dl := dl.access .pdoutdata (len + 1 ≤ pdMaxSize)
    dl.modPd fun h => { h with pdoutdata := h.pdoutdata.write len [0] }
  else dl

theorem Dl.pdOutputUpdateReq_eq (dl : Dl) (outputdata : List Octet) :
    dl.pdOutputUpdateReq outputdata =
      if dl.pdHandler.state = .inactive0 then (.conditionsNotCorrect, dl)
      else (.none, dl.pdOutputCopy outputdata) := by
  unfold Dl.pdOutputUpdateReq Dl.pdOutputCopy
  split_ifs
  · rfl
  · dsimp only
    split_ifs <;> rfl

/-- `output_enable` of a request. -/
def ArgBlockPdout.outputEnable (argBlock : ArgBlockPdout) : Bool := argBlock.oe &&& 1 ≠ 0

/-- `write_val` of a request. -/
def ArgBlockPdout.writeVal (argBlock : ArgBlockPdout) : Bool := argBlock.data.get 0 &&& 1 ≠ 0

/-- Where a request is: what its thread does next. -/
inductive RequestPc
  /-- `pde_check_smi_req` reads the port status. -/
  | checkStatus
  /-- It reads the state of the layer. -/
  | checkState (status : PortStatusInfo)
  /-- The request reads the port status itself. -/
  | readStatus
  /-- `read_di`. -/
  | readDi
  /-- `pde_port_quality_to_qualifier`. -/
  | readQuality
  /-- `AL_GetInput_req`. -/
  | getInput (portQualifierInfo : Octet)
  /-- `SMI_PDInOut` reads `output_enable`. -/
  | readEnable (portQualifierInfo : Octet)
  /-- `AL_GetInputOutput_req`. -/
  | getInputOutput (portQualifierInfo : Octet) (oe : Bool)
  /-- `write_do`. -/
  | writeDo (argBlock : ArgBlockPdout)
  /-- `DL_PDOutputUpdate_req` reads the state of the process data handler. -/
  | setOutput (argBlock : ArgBlockPdout)
  /-- It copies the octets. -/
  | copyOutput (argBlock : ArgBlockPdout)
  /-- `SMI_PDOut` reads `output_enable`. -/
  | compareEnable (argBlock : ArgBlockPdout)
  /-- `AL_Control_req`. -/
  | control (argBlock : ArgBlockPdout)
  /-- `SMI_PDOut` writes `output_enable`. -/
  | writeEnable (argBlock : ArgBlockPdout)
  /-- The application is told. -/
  | answer (a : ExchangeAnswer) (error : IolinkError)
  | return_ (error : IolinkError)

/-- Where a request goes with the port status it reads. `SMI_PDInOut` does not read digital
signals: it returns without an answer. -/
def ExchangeRequest.branch (status : PortStatusInfo) : ExchangeRequest → RequestPc
  | .pdIn _ _ _ => if status = .di then .readDi else .readQuality
  | .pdOut _ _ argBlock => if status = .do_ then .writeDo argBlock else .setOutput argBlock
  | .pdInOut _ _ _ => if status = .di then .return_ .none else .readQuality

/-- Where a request that reads input goes with the qualifier. -/
def ExchangeRequest.copy (portQualifierInfo : Octet) : ExchangeRequest → RequestPc
  | .pdInOut _ _ _ => .readEnable portQualifierInfo
  | _ => .getInput portQualifierInfo

/-- The process data of a port, and what has happened, newest last. -/
structure PdExchange where
  pde : Pde := {}
  /-- `pdin_data` of the application layer. -/
  pdinData : Buffer Octet pdMaxSize := .fill 0
  pdinDataLen : ℕ := 0
  portQualityInfo : Octet := 0
  /-- The jobs of `DL_Control_ind`. -/
  controlInds : List ControlCode := []
  /-- The requests that are on their way, each with its thread. -/
  pending : ℕ → Option (ExchangeRequest × RequestPc) := fun _ => none
  /-- An assertion has failed. -/
  asserted : Bool := false
  log : List ExchangeEntry := []

namespace PdExchange

variable (s : PdExchange)

@[simps] def record (e : ExchangeEntry) : PdExchange := { s with log := s.log ++ [e] }

/-- The layer itself changes. -/
@[simps] def setPde (p : Pde) : PdExchange := { s with pde := p }

/-- A request gets to another place. -/
@[simps] def goto (thread : ℕ) (r : ExchangeRequest) (pc : RequestPc) : PdExchange :=
  { s with pending := Function.update s.pending thread (some (r, pc)) }

/-! ### The threads of the stack -/

/-- `DL_PDInputTransport_ind`. -/
def pdInputTransportInd (data : List Octet) : PdExchange :=
  if pdMaxSize < data.length then { s with asserted := true }
  else
    { s with
      pdinData := s.pdinData.write 0 data
      pdinDataLen := data.length
      log := s.log ++ [.indicated data] }

/-- A call of the data link layer. -/
def dlCall : DlCall → PdExchange
  | .pdInputTransportInd _ data => s.pdInputTransportInd data
  | .controlInd controlcode => { s with controlInds := s.controlInds ++ [controlcode] }
  | _ => s

/-- The only input of the data link layer that concerns the image. -/
def linkEntries : LinkInput → List ExchangeEntry
  | .dl .reset => [.reset]
  | _ => []

/-- An input of the data link layer, and the calls that follow. -/
def link (i : LinkInput) : PdExchange :=
  (s.pde.dl.callsOf i).foldl dlCall
    { s with pde := s.pde.setDl (s.pde.dl.react i), log := s.log ++ linkEntries i }

/-- `dl_control_ind_cb`. -/
def controlJob : PdExchange :=
  match s.controlInds with
  | [] => s
  | code :: rest =>
    match alControlInd s.portQualityInfo code with
    | some quality =>
      { s with
        portQualityInfo := quality
        controlInds := rest
        log := s.log ++ [.control code] }
    | none => { s with asserted := true }

/-- The Configuration Manager changes the status in the port info. -/
def portStatus (status : PortStatusInfo) : PdExchange :=
  (s.setPde { s.pde with portStatusInfo := status }).record (.portStatus status)

/-- The Configuration Manager changes the quality in the port info. -/
def portQuality (quality : Octet) : PdExchange :=
  { s with portQualityInfo := quality, log := s.log ++ [.portQuality quality] }

/-- `PD_Start`. -/
def pdStart : PdExchange := (s.setPde { s.pde with state := .pdActive }).record .activated

/-- `PD_Stop` clears `output_enable`. -/
def pdStopEnable : PdExchange := (s.setPde (s.pde.setOutputEnable false)).record .disabled

/-- `PD_Stop` changes the state. -/
def pdStopState : PdExchange := (s.setPde { s.pde with state := .inactive }).record .deactivated

/-! ### The requests -/

/-- `AL_GetInput_req`. -/
def alGetInputReq : List Octet := s.pdinData.slice 0 s.pdinDataLen

/-- `AL_GetInputOutput_req`. -/
def alGetInputOutputReq : List Octet :=
  UInt8.ofNat s.pdinDataLen :: s.alGetInputReq ++
    UInt8.ofNat s.pde.dl.pdHandler.pdTxlen :: s.pde.dl.pdOutputGetReq

/-- A thread makes a request; the arg block is its own. -/
def call (thread : ℕ) (r : ExchangeRequest) : PdExchange :=
  match s.pending thread with
  | some _ => s
  | none =>
    (s.record (.called thread r)).goto thread r
      (if r.blockError ≠ SmiErrorType.none then
        .answer (.smi (.joberror r.exp r.ref r.blockError)) .parameterConflict
      else .checkStatus)

/-- A step of a thread with its request; `di` is the digital input. -/
def perform (thread : ℕ) (r : ExchangeRequest) (pc : RequestPc) (di : Bool) : PdExchange :=
  match pc with
  | .checkStatus => s.goto thread r (.checkState s.pde.portStatusInfo)
  | .checkState status =>
    s.goto thread r (if s.pde.state = .inactive ∧ status ≠ .di ∧ status ≠ .do_ then
      .answer (.smi (.joberror r.exp r.ref SmiErrorType.devNotInOperate)) .stateInvalid
      else .readStatus)
  | .readStatus => s.goto thread r (r.branch s.pde.portStatusInfo)
  | .readDi => s.goto thread r (.answer (.pdIn r.exp 0 [if di then 1 else 0]) .none)
  | .readQuality => s.goto thread r (r.copy (portQualityToQualifier s.portQualityInfo))
  | .getInput qualifier =>
    s.goto thread r (.answer (.pdIn r.exp qualifier s.alGetInputReq) .none)
  | .readEnable qualifier => s.goto thread r (.getInputOutput qualifier s.pde.outputEnable)
  | .getInputOutput qualifier oe =>
    s.goto thread r (.answer (.pdInOut r.exp qualifier oe s.alGetInputOutputReq) .none)
  | .writeDo argBlock =>
    ((s.setPde (s.pde.writeDo argBlock.writeVal)).record (.written thread argBlock.writeVal)).goto
      thread r (.answer (.smi (.voidblock argBlock.id)) .none)
  | .setOutput argBlock =>
    s.goto thread r (if s.pde.dl.pdHandler.state = .inactive0 then
      .answer (.smi (.joberror r.exp argBlock.id SmiErrorType.devNotAccessible))
        .conditionsNotCorrect
      else .copyOutput argBlock)
  | .copyOutput argBlock =>
    ((s.setPde (s.pde.setDl (s.pde.dl.pdOutputCopy argBlock.data.cells))).record
      (.updated thread argBlock.data.cells s.pde.dl.pdHandler.pdTxlen)).goto thread r
      (.compareEnable argBlock)
  | .compareEnable argBlock =>
    s.goto thread r (if s.pde.outputEnable ≠ argBlock.outputEnable then .control argBlock
      else .answer (.smi (.voidblock argBlock.id)) .none)
  | .control argBlock =>
    let (error, p) := s.pde.alControlReq
      (if argBlock.outputEnable then .pdoutvalid else .pdoutinvalid)
    (s.setPde p).goto thread r (if error ≠ .none then
      .answer (.smi (.joberror r.exp argBlock.id SmiErrorType.devNotAccessible)) error
      else .writeEnable argBlock)
  | .writeEnable argBlock =>
    ((s.setPde (s.pde.setOutputEnable argBlock.outputEnable)).record
      (.enabled thread argBlock.outputEnable)).goto thread r
      (.answer (.smi (.voidblock argBlock.id)) .none)
  | .answer a error => (s.record (.answered thread r a)).goto thread r (.return_ error)
  | .return_ error =>
    { s.record (.returned thread r error) with
      pending := Function.update s.pending thread none }

/-- A thread goes on with its request. -/
def go (thread : ℕ) (di : Bool) : PdExchange :=
  match s.pending thread with
  | none => s
  | some (r, pc) => s.perform thread r pc di

/-! ### Runs -/

/-- A step of one of the threads. -/
inductive Move
  | link (i : LinkInput)
  | controlJob
  | portStatus (status : PortStatusInfo)
  | portQuality (quality : Octet)
  | pdStart
  | pdStopEnable
  | pdStopState
  | call (thread : ℕ) (r : ExchangeRequest)
  | go (thread : ℕ) (di : Bool)

/-- The output is written by the requests only. -/
def Move.Regular : Move → Prop
  | .link (.dl (.pdOutputUpdate _)) => False
  | _ => True

instance : DecidablePred Move.Regular := fun m => by
  unfold Move.Regular
  split <;> infer_instance

/-- The thread goes on with its request. -/
def Move.Goes (thread : ℕ) : Move → Prop
  | .go t _ => t = thread
  | _ => False

instance (thread : ℕ) : DecidablePred (Move.Goes thread) := fun m => by
  unfold Move.Goes
  split <;> infer_instance

/-- One step of one thread. A failed assertion ends the program. -/
def step (m : Move) : PdExchange :=
  if s.asserted then s
  else
    match m with
    | .link i => s.link i
    | .controlJob => s.controlJob
    | .portStatus status => s.portStatus status
    | .portQuality quality => s.portQuality quality
    | .pdStart => s.pdStart
    | .pdStopEnable => s.pdStopEnable
    | .pdStopState => s.pdStopState
    | .call thread r => s.call thread r
    | .go thread di => s.go thread di

/-- What the threads can make of a port. -/
abbrev Reaches : PdExchange → Prop := Runs.Reaches step (fun _ m => m.Regular) {}

end PdExchange

end IolHat
