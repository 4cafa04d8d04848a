import IolHat.OnRequestData.Machine
import Mathlib.Logic.Function.Basic

/-!
# The application's side of a port

Each port has one record, `iolink_app_port_ctx_t`, that all services of the port share: an error
type, a set of event flags, the length of the last value read and the last process data input.
The master's thread fills it through one callback, `SMI_cnf_cb`; the server's thread posts a
request, waits for a flag, and takes the result from the record.
-/

namespace IolHat

open Octets

/-- `iolink_app_port_event_t`. -/
inductive SmiFlag
  | readCnf | writeCnf | portcfgCnf | portstatusCnf | masteridentCnf | parservToDsCnf
  deriving DecidableEq, Repr

/-- `iolink_app_port_state_t`. -/
inductive AppPortState
  | inactive | starting | stopping | running | wuRetryWaitTsd
  deriving DecidableEq, Repr, Inhabited

/-- Process data input with its qualifier, `pdin`. -/
structure AppPdin where
  pqi : Octet
  /-- The octets, `data_len` of them. -/
  data : List Octet
  /-- No device has more process data. -/
  length_le : data.length ≤ pdMaxSize
  deriving DecidableEq

/-- No input yet. -/
def AppPdin.empty : AppPdin := ⟨0, [], Nat.zero_le pdMaxSize⟩

/-- `iolink_app_port_ctx_t`. -/
structure AppPort where
  portnumber : ℕ := 1
  appPortState : AppPortState := .inactive
  /-- The vendor and device identification of the last port status. -/
  vendorid : UInt16 := 0
  deviceid : UInt32 := 0
  errortype : SmiErrorType := SmiErrorType.none
  /-- `event`. -/
  flags : SmiFlag → Bool := fun _ => false
  pdin : AppPdin := .empty
  /-- `param_read.data_len`. -/
  paramReadLen : ℕ := 0

/-- The arg block of a callback. -/
inductive SmiBlock
  | jobError (error : SmiErrorType)
  | portStatusList (vendorid : UInt16) (deviceid : UInt32)
  | portEvent
  | devEvent
  | odRd (block : ArgBlockOd)
  | pdIn (input : AppPdin)
  | pdInOut
  | masterIdent
  | voidBlock

/-- The callback of a service that has failed. -/
def SmiBlock.isJobError : SmiBlock → Bool
  | .jobError _ => true
  | _ => false

/-- The arg block with which an answer of the on-request layer arrives. -/
def SmiAnswer.block : SmiAnswer → SmiBlock
  | .cnf _ _ block => .odRd block
  | .voidblock _ => .voidBlock
  | .joberror _ _ e => .jobError e

/-- The service an answer refers to. -/
def SmiAnswer.ref : SmiAnswer → ArgBlockId
  | .cnf ref _ _ => ref
  | .voidblock ref => ref
  | .joberror _ ref _ => ref

/-- The length an answer announces; only that of a read is looked at. -/
def SmiAnswer.argBlockLen : SmiAnswer → ℕ
  | .cnf _ argBlockLen _ => argBlockLen
  | _ => 0

/-- `arg_block_len - sizeof (arg_block_od_t)`, assigned to a `uint16_t`. -/
def odDataLen (argBlockLen : ℕ) : ℕ := (argBlockLen + 65536 - sizeofArgBlockOd) % 65536

namespace AppPort

/-! ### Event flags -/

/-- `os_event_set`. -/
@[simps] def setFlag (f : SmiFlag) (p : AppPort) : AppPort :=
  { p with flags := Function.update p.flags f true }

/-- `os_event_clr`. -/
@[simps] def clrFlag (f : SmiFlag) (p : AppPort) : AppPort :=
  { p with flags := Function.update p.flags f false }

@[simps] def setErrortype (e : SmiErrorType) (p : AppPort) : AppPort := { p with errortype := e }

@[simps] def setParamReadLen (n : ℕ) (p : AppPort) : AppPort := { p with paramReadLen := n }

variable {f g : SmiFlag}

theorem setFlag_self (f : SmiFlag) (p : AppPort) : (p.setFlag f).flags f = true := by
  rw [setFlag_flags, Function.update_self]

theorem setFlag_of_ne (h : g ≠ f) (p : AppPort) : (p.setFlag f).flags g = p.flags g := by
  rw [setFlag_flags, Function.update_of_ne h]

theorem clrFlag_self (f : SmiFlag) (p : AppPort) : (p.clrFlag f).flags f = false := by
  rw [clrFlag_flags, Function.update_self]

/-! ### The callback -/

/-- The event of a service that has failed. -/
def joberrorFlag (ref : ArgBlockId) : Option SmiFlag :=
  if ref = ArgBlockId.odRd then some .readCnf
  else if ref = ArgBlockId.odWr then some .writeCnf
  else if ref = ArgBlockId.dsData then some .parservToDsCnf
  else none

/-- `handle_smi_joberror`. The error type is stored whichever service has failed. -/
def handleSmiJoberror (p : AppPort) (ref : ArgBlockId) (error : SmiErrorType) : AppPort :=
  match joberrorFlag ref with
  | some f => (p.setErrortype error).setFlag f
  | none => p.setErrortype error

/-- The event of a service that has been done. -/
def voidblockFlag (ref : ArgBlockId) : Option SmiFlag :=
  if ref = ArgBlockId.dsData then some .parservToDsCnf
  else if ref = ArgBlockId.odWr then some .writeCnf
  else if ref = ArgBlockId.portCfgList then some .portcfgCnf
  else none

/-- `SMI_cnf_cb`. -/
def smiCnfCb (p : AppPort) (ref : ArgBlockId) (argBlockLen : ℕ) : SmiBlock → AppPort
  | .jobError error => p.handleSmiJoberror ref error
  | .portStatusList vendorid deviceid =>
    { p with vendorid := vendorid, deviceid := deviceid }.setFlag .portstatusCnf
  | .portEvent | .devEvent | .pdInOut => p
  | .odRd _ => (p.setParamReadLen (odDataLen argBlockLen)).setFlag .readCnf
  | .pdIn input => { p with pdin := input }
  | .masterIdent => p.setFlag .masteridentCnf
  | .voidBlock =>
    match voidblockFlag ref with
    | some f => p.setFlag f
    | none => p

/-- An answer of the on-request layer arrives. -/
def answered (p : AppPort) (a : SmiAnswer) : AppPort := p.smiCnfCb a.ref a.argBlockLen a.block

theorem answered_cnf (p : AppPort) (ref : ArgBlockId) (n : ℕ) (block : ArgBlockOd) :
    p.answered (.cnf ref n block) = (p.setParamReadLen (odDataLen n)).setFlag .readCnf := rfl

/-- `iolink_start_port` ends with a clear error type. -/
def startPort (p : AppPort) : AppPort := p.setErrortype SmiErrorType.none

end AppPort

/-- `portnumber_to_iolinkport`, with `port_cnt` ports. -/
def portnumberToIolinkport (portCnt portnumber : ℕ) : IolinkError :=
  if portnumber = 0 ∨ portCnt < portnumber - 1 then .parameterConflict else .none

end IolHat
