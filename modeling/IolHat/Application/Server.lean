import IolHat.Application.Port
import Mathlib.Data.Fin.Basic

/-!
# The TCP server

`runServer` serves one connection at a time: it reads one frame of at most 1024 octets into its
buffer, executes the command in it and sends the reply from the same buffer. Buffer, commands and
status records are kept from one connection to the next.

The layers below answer the server through `Backend`: what `do_smi_pdin` delivers, what a device
access returns, and what the chip reports. `handle` is one connection; it records what has been
sent, what has been asked of the layers below, and whether every access has stayed inside its
array.
-/

namespace IolHat

open Octets

/-! ### Commands and return codes -/

namespace Cmd

abbrev empty : Octet := 0
abbrev pwr : Octet := 1
abbrev led : Octet := 2
abbrev pd : Octet := 3
abbrev read : Octet := 4
abbrev write : Octet := 5
abbrev status : Octet := 6
abbrev pdHistory : Octet := 7
abbrev status2 : Octet := 8
abbrev status3 : Octet := 9

end Cmd

namespace Ret

abbrev error : Octet := 0xFF
abbrev errorLen : Octet := 0x01
abbrev errorFunc : Octet := 0x02
abbrev errorPortId : Octet := 0x04
abbrev errorInternal : Octet := 0x05

end Ret

/-! ### Records -/

/-- `PORT_NUMBER`. -/
abbrev portNumber : ℕ := 2

/-- A port of the server, `buffer[1]`. -/
abbrev PortIndex := Fin portNumber

/-- Every octet but 0 stands for the second port. -/
def portOf (a : Octet) : PortIndex := if a = 0 then 0 else 1

/-- The two ports have the numbers of their indices. -/
theorem toNat_eq_portOf {a : Octet} (ha : a ≤ 1) : a.toNat = portOf a := by
  have hnat : a.toNat ≤ 1 := UInt8.le_iff_toNat_le.mp ha
  rw [portOf]
  split_ifs with hzero
  · rw [hzero]
    rfl
  · have hne : a.toNat ≠ 0 := fun h => hzero (UInt8.toNat_inj.mp h)
    show a.toNat = 1
    omega

/-- `iolCmd`. -/
structure IolCmd where
  port : Octet := 0
  command : Octet := 0
  lenIn : Octet := 0
  lenOut : Octet := 0
  dataIn : Buffer Octet 256 := .fill 0
  dataOut : Buffer Octet 256 := .fill 0

/-- `iolStatus`. -/
structure IolStatus where
  pdInValid : Octet := 0
  pdOutValid : Octet := 0
  transmissionRate : Octet := 0
  masterCycleTime : Octet := 0
  pdInLength : Octet := 0
  pdOutLength : Octet := 0
  vendorId : UInt16 := 0
  deviceId : UInt32 := 0
  power : Octet := 0
  error : Octet := 0

/-- The packed record in memory. -/
def IolStatus.octets (st : IolStatus) : List Octet :=
  [st.pdInValid, st.pdOutValid, st.transmissionRate, st.masterCycleTime, st.pdInLength,
    st.pdOutLength, st.vendorId.toUInt8, (st.vendorId >>> 8).toUInt8, st.deviceId.toUInt8,
    (st.deviceId >>> 8).toUInt8, (st.deviceId >>> 16).toUInt8, (st.deviceId >>> 24).toUInt8,
    st.power, st.error]

/-- `MAX_PD_IN_QUEUE_SIZE`. -/
abbrev maxPdInQueueSize : ℕ := 255

/-- A queue of process data inputs, which the cyclic run keeps short. -/
structure PdInQueue where
  /-- The inputs, oldest first. -/
  items : List (Buffer Octet 256)
  length_le : items.length ≤ maxPdInQueueSize

namespace PdInQueue

def empty : PdInQueue := ⟨[], Nat.zero_le maxPdInQueueSize⟩

/-- A new input; if the queue gets too big, the first is removed. -/
def push (q : PdInQueue) (item : Buffer Octet 256) : PdInQueue where
  items := if q.items.length < maxPdInQueueSize then q.items ++ [item] else (q.items ++ [item]).tail
  length_le := by
    split_ifs with h
    · rw [List.length_append, List.length_singleton]
      exact h
    · rw [List.length_tail, List.length_append, List.length_singleton, Nat.add_sub_cancel]
      exact q.length_le

end PdInQueue

/-! ### The layers below -/

/-- What `do_smi_device_read` returns to a caller that has asked for `n` octets: the error type,
and what has been copied, the octets at `data` and `actual_len`. -/
structure ReadReturn (n : ℕ) where
  errortype : SmiErrorType
  copied : Option (Buffer Octet n × Octet) := none

/-- The chip and the stack, as the server sees them during a connection. -/
structure Backend where
  appPortState : PortIndex → AppPortState
  /-- What `do_smi_pdin` copies, if `SMI_PDIn_req` is confirmed. -/
  pdIn : PortIndex → Option AppPdin
  deviceRead : PortIndex → UInt16 → Octet → (n : Octet) → ReadReturn n.toNat
  deviceWrite : PortIndex → UInt16 → Octet → List Octet → SmiErrorType
  /-- Power, baud rate and error of a channel. -/
  hwStatus : PortIndex → Bool × Octet × Octet
  regStatus : Octet
  /-- Whether the channel is in SDCI mode, `mode_ch`. -/
  sdci : PortIndex → Bool
  cycletime : PortIndex → Octet
  vendorid : PortIndex → UInt16
  deviceid : PortIndex → UInt32

/-- Both ports are in one state, and nothing is reported. -/
def Backend.quiet (state : AppPortState) : Backend where
  appPortState _ := state
  pdIn _ := none
  deviceRead _ _ _ _ := ⟨SmiErrorType.none, none⟩
  deviceWrite _ _ _ _ := SmiErrorType.none
  hwStatus _ := (true, 3, 0)
  regStatus := 0
  sdci _ := true
  cycletime _ := 0
  vendorid _ := 0
  deviceid _ := 0

/-- The octets `do_smi_pdin` delivers. -/
def Backend.pdInData (b : Backend) (p : PortIndex) : List Octet :=
  match b.pdIn p with
  | some input => input.data
  | none => []

/-- What the server asks of the layers below. -/
inductive ServerCall
  | setPower (p : PortIndex) (on : Bool)
  | setLed (p : PortIndex) (led0 led1 : Bool)
  | pdOut (p : PortIndex) (outputEnable : Bool) (data : List Octet)
  deriving DecidableEq

/-- The server, with what it has sent and asked on the current connection. -/
structure Server where
  buffer : Buffer Octet 1024 := .fill 0
  dataBuffer : Buffer Octet 1024 := .fill 0
  cmd : PortIndex → IolCmd := fun _ => {}
  status : PortIndex → IolStatus := fun _ => {}
  queue : PortIndex → PdInQueue := fun _ => .empty
  sent : List (List Octet) := []
  /-- The length that each `send` has been given. -/
  lengths : List ℕ := []
  calls : List ServerCall := []
  /-- Every access has stayed inside its array. -/
  inside : Bool := true

/-- A frame of at most 1024 octets. -/
structure Frame where
  octets : List Octet
  length_le : octets.length ≤ 1024

namespace Server

/-! ### Reading, writing and sending -/

/-- `send` with a length; a message without octets is no message. -/
def sendLen (s : Server) (octets : List Octet) (len : ℕ) : Server :=
  if octets = [] then s
  else { s with sent := s.sent ++ [octets], lengths := s.lengths ++ [len] }

/-- The octets are sent. -/
def send (s : Server) (octets : List Octet) : Server := s.sendLen octets octets.length

/-- `n` octets are sent, from the front of the buffer. Where there are more than the buffer has, the
others are not known. -/
def sendBuffer (s : Server) (n : ℕ) : Server := s.sendLen (s.buffer.slice 0 n) n

/-- A block is written to the buffer. -/
def put (s : Server) (off : ℕ) (src : List Octet) : Server :=
  { s with
    buffer := s.buffer.write off src
    inside := s.inside && decide (Buffer.Fits 1024 off src.length) }

/-- `{RET_ERROR, code}`. -/
def sendError (s : Server) (code : Octet) : Server := s.send [Ret.error, code]

/-- `{RET_ERROR, RET_ERROR_INTERNAL, hi, lo}`. -/
def sendInternal (s : Server) (e : SmiErrorType) : Server :=
  s.send [Ret.error, Ret.errorInternal, (e >>> 8).toUInt8, e.toUInt8]

def setCmd (s : Server) (p : PortIndex) (c : IolCmd) : Server :=
  { s with cmd := Function.update s.cmd p c }

def setStatus (s : Server) (p : PortIndex) (st : IolStatus) : Server :=
  { s with status := Function.update s.status p st }

def setQueue (s : Server) (p : PortIndex) (q : PdInQueue) : Server :=
  { s with queue := Function.update s.queue p q }

def call (s : Server) (c : ServerCall) : Server := { s with calls := s.calls ++ [c] }

/-- The checks at the start of a command: the length of the frame, and once more the port. -/
def checked (s : Server) (lengthOk : Bool) (body : Server → Server) : Server :=
  if ¬ lengthOk then s.sendError Ret.errorLen
  else if portNumber < (s.buffer.get 1).toNat then s.sendError Ret.errorPortId
  else body s

/-! ### Commands -/

/-- `CMD_PWR`. -/
def cmdPwr (p : PortIndex) (s : Server) : Server :=
  (s.call (.setPower p (s.buffer.get 2 ≠ 0))).sendBuffer 3

/-- `CMD_LED`. -/
def cmdLed (p : PortIndex) (s : Server) : Server :=
  (s.call (.setLed p (s.buffer.get 2 &&& 1 ≠ 0) (s.buffer.get 2 &&& 2 ≠ 0))).sendBuffer 3

/-- The command record of a frame with process data. -/
def pdCmd (s : Server) (p : PortIndex) : IolCmd :=
  { s.cmd p with
    command := Cmd.pd, port := s.buffer.get 1, lenOut := s.buffer.get 2, lenIn := s.buffer.get 3 }

/-- The output data of a frame goes to the command record. -/
def copyOut (s : Server) (c : IolCmd) : IolCmd :=
  { c with dataOut := c.dataOut.write 0 (s.buffer.slice 4 c.lenOut.toNat) }

/-- `do_smi_pdin` fills the input data. -/
def copyIn (b : Backend) (p : PortIndex) (c : IolCmd) : IolCmd :=
  { c with dataIn := c.dataIn.write 0 (b.pdInData p) }

/-- The same with the output data zeroed. -/
def clearedPdCmd (s : Server) (p : PortIndex) : IolCmd := { s.pdCmd p with dataOut := .fill 0 }

/-- The output of a port in SIO mode is set from the frame. -/
def setOutput (p : PortIndex) (c : IolCmd) (s : Server) : Server :=
  (s.setCmd p (s.copyOut c)).call (.pdOut p true ((s.copyOut c).dataOut.slice 0 1))

/-- `CMD_PD` while IO-Link is running. -/
def pdRunning (p : PortIndex) (c : IolCmd) (s : Server) : Server :=
  ((s.setCmd p (s.copyOut c)).put 4 (c.dataIn.slice 0 c.lenIn.toNat)).put 3 [c.lenIn]

/-- `CMD_PD` in SIO mode. -/
def pdSio (b : Backend) (p : PortIndex) (c : IolCmd) (s : Server) : Server :=
  let c := copyIn b p c
  let readLen := (b.pdInData p).length
  if 0 < readLen then
    ((s.setCmd p c).put 4 (c.dataIn.slice 0 readLen)).put 3 [UInt8.ofNat readLen]
  else if 0 < c.lenOut then s.setOutput p c
  else s.setCmd p c

/-- `CMD_PD`. -/
def cmdPd (b : Backend) (p : PortIndex) (s : Server) : Server :=
  let c := s.clearedPdCmd p
  (if b.appPortState p = .running then s.pdRunning p c else s.pdSio b p c).sendBuffer
    (c.lenIn.toNat + 4)

/-- The queue is copied behind the header, oldest input first. -/
def copyQueue (lenIn : ℕ) : List (Buffer Octet 256) → ℕ → Server → Server
  | [], _, s => s
  | item :: items, pos, s =>
    copyQueue lenIn items (narrow8 (pos + 1)) (s.put (5 + pos * lenIn) (item.slice 0 lenIn))

/-- `CMD_PD_HISTORY` while IO-Link is running. -/
def historyRunning (p : PortIndex) (s : Server) : Server :=
  let c := s.copyOut (s.clearedPdCmd p)
  let q := s.queue p
  let s := copyQueue c.lenIn.toNat q.items 0 (s.setCmd p c)
  let s := (s.put 3 [c.lenIn]).put 4 [UInt8.ofNat q.items.length]
  (s.sendBuffer (5 + q.items.length * c.lenIn.toNat)).setQueue p .empty

/-- `CMD_PD_HISTORY` in SIO mode: `len` octets are sent. -/
def historySio (b : Backend) (p : PortIndex) (s : Server) : Server :=
  let c := s.pdCmd p
  if 0 < c.lenIn then
    let c := copyIn b p c
    let readLen := (b.pdInData p).length
    if 0 < readLen then
      let s := ((s.setCmd p c).put 5 (c.dataIn.slice 0 readLen)).put 3 [UInt8.ofNat readLen]
      (s.put 4 [1]).sendBuffer 6
    else (s.setCmd p c).sendBuffer 0
  else if 0 < c.lenOut then ((s.setOutput p c).put 4 [0]).sendBuffer 5
  else (s.setCmd p c).sendBuffer 0

/-- `CMD_PD_HISTORY`. -/
def cmdPdHistory (b : Backend) (p : PortIndex) (s : Server) : Server :=
  if b.appPortState p = .running then s.historyRunning p else s.historySio b p

/-- `index`, from the two octets of a frame. -/
def index (s : Server) : UInt16 := ((s.buffer.get 2).toUInt16 <<< 8) ||| (s.buffer.get 3).toUInt16

/-- `CMD_READ`. -/
def cmdRead (b : Backend) (p : PortIndex) (s : Server) : Server :=
  let r := b.deviceRead p s.index (s.buffer.get 4) (s.buffer.get 5)
  if r.errortype ≠ SmiErrorType.none then s.sendInternal r.errortype
  else
    match r.copied with
    | some (data, actualLen) =>
      ((s.put 6 data.cells).put 5 [actualLen]).sendBuffer (6 + actualLen.toNat)
    | none => (s.put 5 [0]).sendBuffer 6

/-- The value of a frame is copied, and the arg block of `do_smi_device_write` built from it. The
arg block has the length of a `uint8_t`. -/
def buildArgBlock (s : Server) (data : List Octet) : Server :=
  { s with
    dataBuffer := s.dataBuffer.write 0 data
    inside := s.inside &&
      decide (Buffer.Fits (narrow8 (sizeofArgBlockOd + data.length)) sizeofArgBlockOd data.length) }

/-- `CMD_WRITE`. -/
def cmdWrite (b : Backend) (p : PortIndex) (s : Server) : Server :=
  let data := s.buffer.slice 6 (s.buffer.get 5).toNat
  let e := b.deviceWrite p s.index (s.buffer.get 4) data
  let s := s.buildArgBlock data
  if e ≠ SmiErrorType.none then s.sendInternal e else s.sendBuffer 6

/-- The status record of a port is brought up to date. -/
def freshStatus (b : Backend) (p : PortIndex) (st : IolStatus) : IolStatus :=
  { st with
    transmissionRate := if b.appPortState p ≠ .running then 0 else (b.hwStatus p).2.1
    power := if (b.hwStatus p).1 then 1 else 0
    masterCycleTime := if b.sdci p then b.cycletime p else 0
    vendorId := b.vendorid p
    deviceId := b.deviceid p
    error := (b.hwStatus p).2.2 }

/-- `CMD_STATUS` and `CMD_STATUS2`; the former leaves out the error octet. -/
def cmdStatus (b : Backend) (p : PortIndex) (s : Server) : Server :=
  let st := freshStatus b p (s.status p)
  let octets := if s.buffer.get 0 = Cmd.status then st.octets.dropLast else st.octets
  ((s.setStatus p st).put 2 octets).sendBuffer (2 + octets.length)

/-! ### A connection -/

/-- The command of a frame with a port. -/
def command (b : Backend) (p : PortIndex) (valread : ℕ) (s : Server) : Server :=
  let c := s.buffer.get 0
  if c = Cmd.empty then s.sendError Ret.errorFunc
  else if c = Cmd.pwr then s.checked (valread = 3) (cmdPwr p)
  else if c = Cmd.led then s.checked (valread = 3) (cmdLed p)
  else if c = Cmd.pd then s.checked (4 ≤ valread) (cmdPd b p)
  else if c = Cmd.pdHistory then s.checked (4 ≤ valread) (cmdPdHistory b p)
  else if c = Cmd.read then s.checked (valread = 6) (cmdRead b p)
  else if c = Cmd.write then
    s.checked (6 ≤ valread ∧ valread = (s.buffer.get 5).toNat + 6) (cmdWrite b p)
  else if c = Cmd.status ∨ c = Cmd.status2 then s.checked (valread = 2) (cmdStatus b p)
  else s.sendError Ret.errorFunc

section command

variable {b : Backend} {p : PortIndex} {valread : ℕ} {s : Server}

theorem command_pd (h : s.buffer.get 0 = Cmd.pd) :
    s.command b p valread = s.checked (4 ≤ valread) (cmdPd b p) := by
  rw [command, h]
  rfl

theorem command_pdHistory (h : s.buffer.get 0 = Cmd.pdHistory) :
    s.command b p valread = s.checked (4 ≤ valread) (cmdPdHistory b p) := by
  rw [command, h]
  rfl

theorem command_read (h : s.buffer.get 0 = Cmd.read) :
    s.command b p valread = s.checked (valread = 6) (cmdRead b p) := by
  rw [command, h]
  rfl

theorem command_write (h : s.buffer.get 0 = Cmd.write) :
    s.command b p valread =
      s.checked (6 ≤ valread ∧ valread = (s.buffer.get 5).toNat + 6) (cmdWrite b p) := by
  rw [command, h]
  rfl

end command

/-- "ERROR: port out of range". -/
def portOutOfRange : List Octet :=
  "ERROR: port out of range\n".toList.map fun c => UInt8.ofNat c.toNat

/-- A frame has been read into the buffer. -/
def receive (s : Server) (f : Frame) : Server :=
  { s with
    buffer := s.buffer.write 0 f.octets
    sent := []
    lengths := []
    calls := []
    inside := true }

/-- The port of the frame. -/
def port (s : Server) : PortIndex := portOf (s.buffer.get 1)

/-- `runServer`, one connection. -/
def handle (b : Backend) (f : Frame) (s : Server) : Server :=
  let valread := f.octets.length
  let s := s.receive f
  -- chip-level: only one octet, no port
  if valread = 1 ∧ s.buffer.get 0 = Cmd.status3 then (s.put 1 [b.regStatus]).sendBuffer 2
  else if valread < 2 then s.sendError Ret.errorLen
  else if 1 < s.buffer.get 1 then s.send portOutOfRange
  else s.command b s.port valread

end Server

end IolHat
