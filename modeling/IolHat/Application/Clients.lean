import IolHat.Application.Exposure

/-!
# Do the clients understand the server?

The C library `iol-hat.c` and the Python module `iolhat.py` read and write parameters over TCP and
tell a success from an error by the length of the reply. The server has one success frame for each
command and three errors: two octets, four octets, and a text for a port that does not exist.

* `Report` is what the server has to say, and `handle_read` and `handle_write` its reply.
* `CClient` and `PyClient` are the functions of the clients.
* `agrees_iff`: they agree with the server on a read when it is a success, and on a write unless it
  is an error of four octets or a text.
-/

namespace IolHat

open Octets

/-- What `recv` returns after a message to a TCP port; `none` when a socket call fails. -/
abbrev Net := ℕ → List Octet → Option (List Octet)

/-- `TCP_PORT1` and `TCP_PORT2`. -/
abbrev tcpPort1 : ℕ := 12010
abbrev tcpPort2 : ℕ := 12011

/-! ### The C client -/

namespace CClient

/-- `CMD_SUCCESS` and `CMD_FAIL`. -/
abbrev cmdSuccess : ℤ := 1
abbrev cmdFail : ℤ := -1

def tcpPort (port : Octet) : ℕ := if port < 2 then tcpPort1 else tcpPort2

/-- The six octets that a message starts with. -/
def header (command port : Octet) (index : UInt16) (subindex length : Octet) : List Octet :=
  [command, if 2 ≤ port then port - 2 else port, (index >>> 8).toUInt8, index.toUInt8, subindex,
    length]

/-- `readParameter`, and what it copies to the caller. `stack` is what `buffer` holds before. -/
def readParameter (stack : Buffer Octet 1024) (net : Net) (port : Octet) (index : UInt16)
    (subindex length : Octet) : ℤ × List Octet :=
  if 3 < port then (cmdFail, [])
  else
    match net (tcpPort port) (header Cmd.read port index subindex length) with
    | none => (cmdFail, [])
    | some received =>
      let buffer := stack.write 0 received
      (cmdSuccess, buffer.slice 6 (buffer.get 5).toNat)

/-- `writeParameter`. -/
def writeParameter (net : Net) (port : Octet) (index : UInt16) (subindex length : Octet)
    (writeData : List Octet) : ℤ :=
  if 3 < port then cmdFail
  else
    let message := header Cmd.write port index subindex length ++ writeData.take length.toNat
    match net (tcpPort port) message with
    | none => cmdFail
    | some received =>
      if received.length = 2 then cmdFail -- "TCP message error"
      else if received.length = 3 then cmdFail -- "IO Link error"
      else cmdSuccess

end CClient

/-! ### The Python client -/

/-- How a Python function is left. -/
inductive PyResult
  | raises
  | int (n : ℤ)
  | str (s : String)
  | bytes (data : List Octet)
  deriving DecidableEq

namespace PyClient

/-- `CMD_SUCCESS` and `CMD_FAIL`. -/
abbrev cmdSuccess : ℤ := 1
abbrev cmdFail : ℤ := 0

def tcpPort (port : ℤ) : ℕ := if port < 2 then tcpPort1 else tcpPort2

/-- What `struct.pack` makes of a number of one octet. -/
def packB (n : ℤ) : Octet := UInt8.ofNat n.toNat

/-- `struct.pack ("!BBHBB", …)`. -/
def header (command : Octet) (port index subindex length : ℤ) : List Octet :=
  [command, packB (if port < 2 then port else port - 2), packB (index / 256), packB (index % 256),
    packB subindex, packB length]

/-- The arguments pass the checks, and `length` fits the octet it is packed into. -/
def Accepts (port index subindex length : ℤ) : Prop :=
  port ∈ [0, 1, 2, 3] ∧ ¬ 0xFFFF < index ∧ ¬ index < 0 ∧ ¬ 0xFF < subindex ∧ ¬ subindex < 0 ∧
    (0 ≤ length ∧ length ≤ 0xFF)

instance (port index subindex length : ℤ) : Decidable (Accepts port index subindex length) :=
  inferInstanceAs (Decidable (_ ∧ _))

/-- The `try` statement of `read` without its `finally`: how it leaves the function, if it does, and
what is in `return_data` then. -/
def tryRead : Option (List Octet) → Option PyResult × PyResult
  | none => (some .raises, .str "")
  | some data =>
    if data.length = 2 then (some .raises, .str "")
    else if data.length = 4 then (some (.int cmdFail), .str "")
    else (none, .bytes (data.drop 6))

/-- `read`: `finally` returns `return_data`, however the `try` statement leaves. -/
def read (net : Net) (port index subindex length : ℤ) : PyResult :=
  if ¬ Accepts port index subindex length then .raises
  else (tryRead (net (tcpPort port) (header Cmd.read port index subindex length))).2

/-- `write`. -/
def write (net : Net) (port index subindex length : ℤ) (writeData : List Octet) : PyResult :=
  if ¬ Accepts port index subindex length then .raises
  else
    match net (tcpPort port) (header Cmd.write port index subindex length ++ writeData) with
    | none => .raises
    | some received =>
      if received.length = 2 then .raises
      else if received.length = 4 then .int cmdFail
      else .int cmdSuccess

end PyClient

/-! ### What the server says -/

/-- What the reply to a read or a write says. -/
inductive Report
  /-- Success, with the value of a read. -/
  | success (data : List Octet)
  /-- `{RET_ERROR, code}`. -/
  | protocolError (code : Octet)
  /-- `{RET_ERROR, RET_ERROR_INTERNAL, hi, lo}`. -/
  | ioLinkError (e : SmiErrorType)
  /-- "ERROR: port out of range". -/
  | portError
  deriving DecidableEq

namespace Report

def IsSuccess : Report → Prop
  | success _ => True
  | _ => False

/-- The octets of a report; `frame` is the success frame of the command. -/
def octets (frame : List Octet → List Octet) : Report → List Octet
  | success data => frame data
  | protocolError code => [Ret.error, code]
  | ioLinkError e => [Ret.error, Ret.errorInternal, (e >>> 8).toUInt8, e.toUInt8]
  | portError => Server.portOutOfRange

end Report

namespace Server

variable {b : Backend} {f : Frame} {s : Server}

/-- What the stack answers to the write of a frame. -/
def writeAnswer (b : Backend) (p : PortIndex) (f : Frame) : SmiErrorType :=
  b.deviceWrite p (((octetOf f.octets 2).toUInt16 <<< 8) ||| (octetOf f.octets 3).toUInt16)
    (octetOf f.octets 4) (f.octets.drop 6)

/-- The length of a frame with a value. -/
def WriteLength (f : Frame) : Prop :=
  6 ≤ f.octets.length ∧ f.octets.length = (octetOf f.octets 5).toNat + 6

instance : Decidable (WriteLength f) := inferInstanceAs (Decidable (_ ∧ _))

/-- The report of a command whose frame has the right length, or has not. -/
def report (f : Frame) (lengthOk : Prop) [Decidable lengthOk] (body : Report) : Report :=
  if f.octets.length < 2 then .protocolError Ret.errorLen
  else if 1 < octetOf f.octets 1 then .portError
  else if lengthOk then body
  else .protocolError Ret.errorLen

/-- The report of `CMD_READ`. -/
def readReport (b : Backend) (f : Frame) (s : Server) : Report :=
  let r := readAnswer b f.port f
  report f (f.octets.length = 6)
    (if r.errortype ≠ SmiErrorType.none then .ioLinkError r.errortype
    else
      match r.copied with
      | some (data, actualLen) =>
        .success (((s.receive f).put 6 data.cells).buffer.slice 6 actualLen.toNat)
      | none => .success [])

/-- The report of `CMD_WRITE`. -/
def writeReport (b : Backend) (f : Frame) : Report :=
  let e := writeAnswer b f.port f
  report f (WriteLength f) (if e ≠ SmiErrorType.none then .ioLinkError e else .success [])

/-- The success frame of `CMD_READ`. -/
def readFrame (f : Frame) (data : List Octet) : List Octet :=
  f.octets.take 5 ++ [UInt8.ofNat data.length] ++ data

/-- The success frame of `CMD_WRITE`. -/
def writeFrame (f : Frame) (_ : List Octet) : List Octet := f.octets.take 6

/-! ### The reply -/

theorem sent_sendError (hs : s.sent = []) (code : Octet) :
    (s.sendError code).sent = [[Ret.error, code]] := by
  rw [sendError, send_of_ne (List.cons_ne_nil _ _), hs]
  rfl

theorem sent_sendInternal (hs : s.sent = []) (e : SmiErrorType) : (s.sendInternal e).sent =
    [[Ret.error, Ret.errorInternal, (e >>> 8).toUInt8, e.toUInt8]] := by
  rw [sendInternal, send_of_ne (List.cons_ne_nil _ _), hs]
  rfl

theorem sent_sendBuffer (hs : s.sent = []) {n : ℕ} (hpos : 0 < n) (hn : n ≤ 1024) :
    (s.sendBuffer n).sent = [s.buffer.slice 0 n] := by
  have hlen : (s.buffer.slice 0 n).length = n := s.buffer.length_slice (by simpa using hn)
  have hne : s.buffer.slice 0 n ≠ [] := by
    intro h
    rw [h] at hlen
    exact absurd hlen (by simpa using hpos.ne)
  rw [sendBuffer_eq hn, send_of_ne hne, hs]
  rfl

/-- A command with a length to check, and a body that reports. -/
theorem sent_handle {frame : List Octet → List Octet} {report' : Report} {lengthOk : Prop}
    [Decidable lengthOk] (body : Server → Server) {c : Octet} (hne : c ≠ Cmd.status3)
    (hc : octetOf f.octets 0 = c) (hpos : 0 < f.octets.length)
    (hcommand : 2 ≤ f.octets.length → ∀ r : Server,
      (∀ i < f.octets.length, r.buffer.get i = octetOf f.octets i) →
      r.command b f.port f.octets.length = r.checked lengthOk body)
    (hbody : 2 ≤ f.octets.length → lengthOk →
      (body (s.receive f)).sent = [report'.octets frame]) :
    (s.handle b f).sent = [(report f lengthOk report').octets frame] := by
  have hget : ∀ i < f.octets.length, (s.receive f).buffer.get i = octetOf f.octets i :=
    fun i hi => s.get_receive f hi
  rw [handle, report, hget 0 hpos, hc, if_neg fun h => hne h.2]
  by_cases hshort : f.octets.length < 2
  · rw [if_pos hshort, if_pos hshort]
    exact sent_sendError rfl _
  have htwo : 2 ≤ f.octets.length := Nat.not_lt.mp hshort
  rw [if_neg hshort, if_neg hshort, hget 1 htwo]
  by_cases hport : 1 < octetOf f.octets 1
  · rw [if_pos hport, if_pos hport, send_of_ne (by decide)]
    rfl
  rw [if_neg hport, if_neg hport]
  have hframe : (s.receive f).port = f.port := by
    rw [port, Frame.port, hget 1 htwo]
  have hle : (s.receive f).buffer.get 1 ≤ 1 := by
    rw [hget 1 htwo]
    exact UInt8.not_lt.mp hport
  rw [hframe, hcommand htwo _ hget, checked_eq hle]
  by_cases hok : lengthOk
  · rw [if_pos (decide_eq_true hok), if_pos hok]
    exact hbody htwo hok
  · rw [if_neg (by simpa using hok), if_neg hok]
    exact sent_sendError rfl _

/-- A command octet is the first of a frame that has one. -/
theorem length_pos_of_command {c : Octet} (hc : octetOf f.octets 0 = c) (hne : c ≠ 0) :
    0 < f.octets.length := by
  by_contra hzero
  have hnil : f.octets = [] := List.length_eq_zero_iff.mp (by omega)
  rw [hnil] at hc
  exact hne hc.symm

/-- A reply with a value: its length is put into octet 5. -/
private theorem sent_value (hs : s.sent = []) {header : List Octet}
    (hheader : s.buffer.slice 0 5 = header) (n : Octet) :
    ((s.put 5 [n]).sendBuffer (6 + n.toNat)).sent =
      [header ++ [n] ++ s.buffer.slice 6 n.toNat] := by
  have hn : n.toNat < 256 := n.toNat_lt
  have hsix : (s.put 5 [n]).buffer.slice 0 6 = header ++ [n] := by
    rw [← hheader]
    exact s.buffer.slice_write 5 [n] (show 6 ≤ 1024 by decide)
  have hrest : (s.put 5 [n]).buffer.slice 6 n.toNat = s.buffer.slice 6 n.toNat :=
    s.buffer.slice_write_of_disjoint [n] (.inl (Nat.le_refl 6))
  rw [sent_sendBuffer (show (s.put 5 [n]).sent = [] from hs) (by omega) (by omega),
    Buffer.slice_add, hsix, Nat.zero_add, hrest]

/-- **The reply of `CMD_READ`.** -/
theorem handle_read (hc : octetOf f.octets 0 = Cmd.read) :
    (s.handle b f).sent = [(s.readReport b f).octets (readFrame f)] := by
  refine sent_handle (cmdRead b f.port) (by decide) hc
    (length_pos_of_command hc (by decide)) (fun htwo r hget => ?_) fun htwo hsix => ?_
  · exact command_read ((hget 0 (by omega)).trans hc)
  have hget : ∀ i < f.octets.length, (s.receive f).buffer.get i = octetOf f.octets i :=
    fun i hi => s.get_receive f hi
  have hanswer : cmdRead b f.port (s.receive f) =
      replyRead (readAnswer b f.port f) (s.receive f) := by
    rw [cmdRead_eq, index, hget 2 (by omega), hget 3 (by omega), hget 4 (by omega),
      hget 5 (by omega), readAnswer]
  rw [hanswer, replyRead]
  generalize readAnswer b f.port f = r
  by_cases herr : r.errortype ≠ SmiErrorType.none
  · rw [if_pos herr, if_pos herr]
    exact sent_sendInternal rfl _
  rw [if_neg herr, if_neg herr]
  have hheader : (s.receive f).buffer.slice 0 5 = f.octets.take 5 := s.slice_receive f (by omega)
  rcases r.copied with _ | ⟨data, actualLen⟩
  · exact sent_value rfl hheader 0
  · have hdata : ((s.receive f).put 6 data.cells).buffer.slice 0 5 = f.octets.take 5 := by
      rw [← hheader]
      exact Buffer.slice_write_of_le _ _ (by omega)
    have hn : actualLen.toNat < 256 := actualLen.toNat_lt
    have hlen : (((s.receive f).put 6 data.cells).buffer.slice 6 actualLen.toNat).length =
        actualLen.toNat := Buffer.length_slice _ (show _ ≤ 1024 by omega)
    refine (sent_value rfl hdata actualLen).trans ?_
    rw [Report.octets, readFrame, hlen, UInt8.ofNat_toNat]

/-- **The reply of `CMD_WRITE`.** -/
theorem handle_write (hc : octetOf f.octets 0 = Cmd.write) :
    (s.handle b f).sent = [(writeReport b f).octets (writeFrame f)] := by
  have hget : ∀ r : Server, (∀ i < f.octets.length, r.buffer.get i = octetOf f.octets i) →
      6 ≤ f.octets.length → r.buffer.get 5 = octetOf f.octets 5 := fun r hr hsix => hr 5 (by omega)
  refine sent_handle (cmdWrite b f.port) (by decide) hc
    (length_pos_of_command hc (by decide)) (fun htwo r hr => ?_) fun htwo hlength => ?_
  · have hok : (decide (6 ≤ f.octets.length ∧
        f.octets.length = (r.buffer.get 5).toNat + 6)) = decide (WriteLength f) := by
      refine decide_eq_decide.mpr (and_congr_right fun hsix => ?_)
      rw [hget r hr hsix]
    rw [command_write ((hr 0 (by omega)).trans hc), hok]
  obtain ⟨hsix, hlen⟩ := hlength
  have hget : ∀ i < f.octets.length, (s.receive f).buffer.get i = octetOf f.octets i :=
    fun i hi => s.get_receive f hi
  have hdata : (s.receive f).buffer.slice 6 (octetOf f.octets 5).toNat = f.octets.drop 6 := by
    have hall : (s.receive f).buffer.slice 0 (6 + (octetOf f.octets 5).toNat) =
        f.octets.take 6 ++ f.octets.drop 6 := by
      rw [s.slice_receive f (by omega), List.take_append_drop, List.take_of_length_le (by omega)]
    rw [Buffer.slice_add] at hall
    exact (List.append_inj hall (by rw [s.slice_receive f hsix])).2
  have hanswer : b.deviceWrite f.port (s.receive f).index ((s.receive f).buffer.get 4)
      ((s.receive f).buffer.slice 6 ((s.receive f).buffer.get 5).toNat) =
      writeAnswer b f.port f := by
    rw [index, hget 2 (by omega), hget 3 (by omega), hget 4 (by omega), hget 5 (by omega), hdata,
      writeAnswer]
  rw [cmdWrite, hanswer]
  by_cases herr : writeAnswer b f.port f ≠ SmiErrorType.none
  · rw [if_pos herr, if_pos herr]
    exact sent_sendInternal rfl _
  · rw [if_neg herr, if_neg herr, sent_sendBuffer rfl (by decide) (by decide)]
    exact congrArg ([·]) (s.slice_receive f hsix)

end Server

/-! ### Agreement -/

/-- The clients agree with the server on a read. -/
structure ReadAgrees (report : Report) (returned : ℤ × List Octet) (py : PyResult) : Prop where
  succeeds : returned.1 = CClient.cmdSuccess ↔ report.IsSuccess
  /-- The value is that of the server. -/
  value : ∀ data, report = .success data → returned.2 = data
  fails : ¬ report.IsSuccess → returned.1 = CClient.cmdFail
  pySucceeds : ∀ data, py = .bytes data ↔ report = .success data
  pyFails : ¬ report.IsSuccess → py = .raises ∨ py = .int PyClient.cmdFail

/-- The clients agree with the server on a write. -/
structure WriteAgrees (report : Report) (returned : ℤ) (py : PyResult) : Prop where
  succeeds : returned = CClient.cmdSuccess ↔ report.IsSuccess
  fails : ¬ report.IsSuccess → returned = CClient.cmdFail
  pySucceeds : py = .int PyClient.cmdSuccess ↔ report.IsSuccess
  pyFails : ¬ report.IsSuccess → py = .raises ∨ py = .int PyClient.cmdFail

/-- A call of the clients. -/
inductive ClientCall
  | read (port : Octet) (index : UInt16) (subindex length : Octet)
  | write (port : Octet) (index : UInt16) (subindex length : Octet) (writeData : List Octet)

namespace ClientCall

def port : ClientCall → Octet
  | read port .. => port
  | write port .. => port

def command : ClientCall → Octet
  | read .. => Cmd.read
  | write .. => Cmd.write

/-- The clients, called alike and given the server's reply to a frame, agree with the server. -/
def Agrees (stack : Buffer Octet 1024) (b : Backend) (f : Frame) (s : Server) : ClientCall → Prop
  | read port index subindex length =>
    let net : Net := fun _ _ => (s.handle b f).sent.head?
    ReadAgrees (s.readReport b f) (CClient.readParameter stack net port index subindex length)
      (PyClient.read net port.toNat index.toNat subindex.toNat length.toNat)
  | write port index subindex length writeData =>
    let net : Net := fun _ _ => (s.handle b f).sent.head?
    WriteAgrees (Server.writeReport b f)
      (CClient.writeParameter net port index subindex length writeData)
      (PyClient.write net port.toNat index.toNat subindex.toNat length.toNat writeData)

/-- The frames whose replies the clients understand: the reads that succeed, and the writes for a
port that exists unless the device access fails. -/
def Understood (b : Backend) (f : Frame) : ClientCall → Prop
  | read .. => f.octets.length = 6 ∧ octetOf f.octets 1 ≤ 1 ∧
      (Server.readAnswer b f.port f).errortype = SmiErrorType.none
  | write .. => f.octets.length < 2 ∨ octetOf f.octets 1 ≤ 1 ∧
      (Server.WriteLength f → Server.writeAnswer b f.port f = SmiErrorType.none)

end ClientCall

/-- What the server reports as success. -/
theorem Server.isSuccess_report_iff {f : Frame} {lengthOk : Prop} [Decidable lengthOk]
    {body : Report} : (Server.report f lengthOk body).IsSuccess ↔
      2 ≤ f.octets.length ∧ octetOf f.octets 1 ≤ 1 ∧ lengthOk ∧ body.IsSuccess := by
  rw [Server.report]
  split_ifs with hshort hport hok
  · exact iff_of_false id fun h => absurd h.1 (by omega)
  · exact iff_of_false id fun h => absurd h.2.1 (UInt8.not_le.mpr hport)
  · rw [UInt8.not_lt] at hport
    exact ⟨fun h => ⟨by omega, hport, hok, h⟩, fun h => h.2.2.2⟩
  · exact iff_of_false id fun h => hok h.2.2.1

variable {port : Octet} {index : UInt16} {subindex length : Octet} {writeData : List Octet}
  {stack : Buffer Octet 1024} {reply : List Octet} {f : Frame} {data : List Octet}

/-- The arguments of the C client are accepted by the Python client. -/
private theorem accepts (hport : port ≤ 3) :
    PyClient.Accepts port.toNat index.toNat subindex.toNat length.toNat := by
  have hport : port.toNat ≤ 3 := UInt8.le_iff_toNat_le.mp hport
  have hindex : index.toNat < 65536 := index.toNat_lt
  have hsubindex : subindex.toNat < 256 := subindex.toNat_lt
  have hlength : length.toNat < 256 := length.toNat_lt
  refine ⟨?_, by omega, by omega, by omega, by omega, by omega, by omega⟩
  simp only [List.mem_cons, List.not_mem_nil, or_false]
  omega

/-! ### Reads -/

/-- The C client takes every reply for a success. -/
private theorem readParameter_eq (hport : port ≤ 3) :
    CClient.readParameter stack (fun _ _ => some reply) port index subindex length =
      (CClient.cmdSuccess,
        (stack.write 0 reply).slice 6 ((stack.write 0 reply).get 5).toNat) := by
  rw [CClient.readParameter, if_neg (UInt8.not_lt.mpr hport)]

/-- The value in a success frame. -/
private theorem value_readFrame (hsix : f.octets.length = 6) (hdata : data.length < 256) :
    (stack.write 0 (Server.readFrame f data)).slice 6
      ((stack.write 0 (Server.readFrame f data)).get 5).toNat = data := by
  have hheader : (f.octets.take 5 ++ [UInt8.ofNat data.length]).length = 6 := by
    rw [List.length_append, List.length_take, hsix]
    rfl
  have hlen : (Server.readFrame f data).length = 6 + data.length := by
    rw [Server.readFrame, List.length_append, hheader]
  have hslice := stack.slice_zero_write (show (Server.readFrame f data).length ≤ 1024 by omega)
  have hfive : (stack.write 0 (Server.readFrame f data)).get 5 = UInt8.ofNat data.length := by
    have htake : (f.octets.take 5).length = 5 := by rw [List.length_take, hsix]; rfl
    rw [Buffer.get_of_slice _ hslice (by omega), Server.readFrame, List.getD_eq_getElem?_getD,
      List.getElem?_append_left (by rw [hheader]; decide), List.getElem?_append_right (by omega),
      htake]
    rfl
  rw [hlen, Buffer.slice_add, Server.readFrame] at hslice
  have hvalue := (List.append_inj hslice (by rw [hheader, Buffer.length_slice _ (by decide)])).2
  rw [Nat.zero_add] at hvalue
  rw [hfive, UInt8.toNat_ofNat_of_lt' hdata]
  exact hvalue

/-- The Python client on a success frame. -/
private theorem tryRead_readFrame (hsix : f.octets.length = 6) (data : List Octet) :
    PyClient.tryRead (some (Server.readFrame f data)) = (none, .bytes data) := by
  have hheader : (f.octets.take 5 ++ [UInt8.ofNat data.length]).length = 6 := by
    rw [List.length_append, List.length_take, hsix]
    rfl
  have hlen : (Server.readFrame f data).length = 6 + data.length := by
    rw [Server.readFrame, List.length_append, hheader]
  rw [PyClient.tryRead, if_neg (by omega), if_neg (by omega), Server.readFrame,
    List.drop_append_of_le_length (by omega), List.drop_of_length_le (by omega), List.nil_append]

/-- A read is understood when it is a success. -/
private theorem readAgrees_iff {report : Report} (hport : port ≤ 3)
    (hreply : reply = report.octets (Server.readFrame f))
    (hsuccess : ∀ data, report = .success data → f.octets.length = 6 ∧ data.length < 256) :
    ReadAgrees report
      (CClient.readParameter stack (fun _ _ => some reply) port index subindex length)
      (PyClient.read (fun _ _ => some reply) port.toNat index.toNat subindex.toNat length.toNat) ↔
      report.IsSuccess := by
  rw [readParameter_eq hport, PyClient.read, if_neg (not_not.mpr (accepts hport))]
  refine ⟨fun h => h.succeeds.mp rfl, fun h => ?_⟩
  cases report with
  | success data =>
    obtain ⟨hsix, hdata⟩ := hsuccess data rfl
    obtain rfl : reply = Server.readFrame f data := hreply
    rw [tryRead_readFrame hsix]
    refine ⟨iff_of_true rfl trivial, ?_, fun hno => absurd trivial hno, fun data' => ?_,
      fun hno => absurd trivial hno⟩
    · rintro data' hdata'
      obtain rfl := Report.success.inj hdata'
      exact value_readFrame hsix hdata
    · exact ⟨fun h => congrArg _ (PyResult.bytes.inj h), fun h => congrArg _ (Report.success.inj h)⟩
  | _ => exact h.elim

/-! ### Writes -/

/-- What the C client makes of the length of a reply. -/
private theorem writeParameter_eq (hport : port ≤ 3) :
    CClient.writeParameter (fun _ _ => some reply) port index subindex length writeData =
      if reply.length = 2 then CClient.cmdFail
      else if reply.length = 3 then CClient.cmdFail
      else CClient.cmdSuccess := by
  rw [CClient.writeParameter, if_neg (UInt8.not_lt.mpr hport)]

/-- What the Python client makes of it. -/
private theorem write_eq (hport : port ≤ 3) :
    PyClient.write (fun _ _ => some reply) port.toNat index.toNat subindex.toNat length.toNat
        writeData =
      if reply.length = 2 then .raises
      else if reply.length = 4 then .int PyClient.cmdFail
      else .int PyClient.cmdSuccess := by
  rw [PyClient.write, if_neg (not_not.mpr (accepts hport))]

/-- A write is understood unless it is an error of four octets or a text. -/
private theorem writeAgrees_iff {report : Report} (hport : port ≤ 3)
    (hreply : reply = report.octets (Server.writeFrame f))
    (hsuccess : report.IsSuccess → 6 ≤ f.octets.length) :
    WriteAgrees report
      (CClient.writeParameter (fun _ _ => some reply) port index subindex length writeData)
      (PyClient.write (fun _ _ => some reply) port.toNat index.toNat subindex.toNat length.toNat
        writeData) ↔
      report.IsSuccess ∨ ∃ code, report = .protocolError code := by
  rw [writeParameter_eq hport, write_eq hport]
  cases report with
  | success data =>
    have hlen : reply.length = 6 := by
      rw [hreply, Report.octets, Server.writeFrame, List.length_take]
      exact Nat.min_eq_left (hsuccess trivial)
    rw [hlen]
    exact iff_of_true ⟨iff_of_true rfl trivial, fun hno => absurd trivial hno,
      iff_of_true rfl trivial, fun hno => absurd trivial hno⟩ (.inl trivial)
  | protocolError code =>
    have hlen : reply.length = 2 := congrArg List.length hreply
    rw [hlen]
    exact iff_of_true ⟨iff_of_false (by decide) id, fun _ => rfl, iff_of_false (by decide) id,
      fun _ => .inl rfl⟩ (.inr ⟨code, rfl⟩)
  | ioLinkError e =>
    have hlen : reply.length = 4 := congrArg List.length hreply
    rw [hlen]
    exact iff_of_false (fun h => h.succeeds.mp rfl) (by rintro (h | ⟨code, h⟩) <;> cases h)
  | portError =>
    have hlen : reply.length = 25 := congrArg List.length hreply
    rw [hlen]
    exact iff_of_false (fun h => h.succeeds.mp rfl) (by rintro (h | ⟨code, h⟩) <;> cases h)

/-! ### All frames -/

namespace ClientCall

variable {b : Backend} {s : Server}

/-- A read that is understood is a success. -/
private theorem isSuccess_readReport_iff : (s.readReport b f).IsSuccess ↔
    f.octets.length = 6 ∧ octetOf f.octets 1 ≤ 1 ∧
      (Server.readAnswer b f.port f).errortype = SmiErrorType.none := by
  rw [Server.readReport, Server.isSuccess_report_iff]
  generalize Server.readAnswer b f.port f = r
  by_cases herr : r.errortype = SmiErrorType.none
  · rw [if_neg (not_not.mpr herr)]
    have hbody : (match r.copied with
        | some (data, actualLen) => Report.success
            (((s.receive f).put 6 data.cells).buffer.slice 6 actualLen.toNat)
        | none => Report.success []).IsSuccess := by
      cases r.copied <;> trivial
    exact ⟨fun h => ⟨h.2.2.1, h.2.1, herr⟩, fun h => ⟨by omega, h.2.1, h.1, hbody⟩⟩
  · rw [if_pos herr]
    exact iff_of_false (fun h => h.2.2.2) fun h => herr h.2.2

/-- The value of a read has at most 255 octets. -/
private theorem length_value (h : s.readReport b f = .success data) : data.length < 256 := by
  rw [Server.readReport, Server.report] at h
  split_ifs at h
  revert h
  rcases (Server.readAnswer b f.port f).copied with _ | ⟨cells, actualLen⟩
  · intro h
    obtain rfl := Report.success.inj h
    exact Nat.zero_lt_succ _
  · intro h
    obtain rfl := Report.success.inj h
    have hn : actualLen.toNat < 256 := actualLen.toNat_lt
    rwa [Buffer.length_slice _ (show _ ≤ 1024 by omega)]

/-- A write is understood as a success or as an error of two octets. -/
private theorem writeReport_iff :
    ((Server.writeReport b f).IsSuccess ∨ ∃ code, Server.writeReport b f = .protocolError code) ↔
      f.octets.length < 2 ∨ octetOf f.octets 1 ≤ 1 ∧
        (Server.WriteLength f →
          Server.writeAnswer b f.port f = SmiErrorType.none) := by
  rw [Server.writeReport, Server.report]
  split_ifs with hshort hport hlength herr
  · exact iff_of_true (.inr ⟨_, rfl⟩) (.inl hshort)
  · refine iff_of_false (by rintro (h | ⟨code, h⟩) <;> cases h) ?_
    rintro (h | ⟨h, -⟩)
    · exact hshort h
    · exact absurd h (UInt8.not_le.mpr hport)
  · refine iff_of_false (by rintro (h | ⟨code, h⟩) <;> cases h) ?_
    rintro (h | ⟨-, h⟩)
    · exact hshort h
    · exact herr (h hlength)
  · exact iff_of_true (.inl trivial) (.inr ⟨UInt8.not_lt.mp hport, fun _ => not_not.mp herr⟩)
  · exact iff_of_true (.inr ⟨_, rfl⟩) (.inr ⟨UInt8.not_lt.mp hport, fun h => absurd h hlength⟩)

/-- **The clients and the server agree** on the reply to a frame exactly when they are able to: for
every frame with the command, whatever the stack answers, and whatever the buffers hold. -/
theorem agrees_iff (stack : Buffer Octet 1024) (b : Backend) (f : Frame) (s : Server)
    (call : ClientCall) (hport : call.port ≤ 3) (hcommand : octetOf f.octets 0 = call.command) :
    call.Agrees stack b f s ↔ call.Understood b f := by
  cases call with
  | read port index subindex length =>
    have hsent := Server.handle_read (b := b) (s := s) hcommand
    rw [Agrees, hsent]
    refine (readAgrees_iff hport rfl fun data hdata => ?_).trans isSuccess_readReport_iff
    have hsuccess : (s.readReport b f).IsSuccess := hdata ▸ trivial
    exact ⟨(isSuccess_readReport_iff.mp hsuccess).1, length_value hdata⟩
  | write port index subindex length writeData =>
    have hsent := Server.handle_write (b := b) (s := s) hcommand
    rw [Agrees, hsent]
    refine (writeAgrees_iff hport rfl fun hsuccess => ?_).trans writeReport_iff
    exact (Server.isSuccess_report_iff.mp hsuccess).2.2.1.1

/-- A device that is not there. -/
def absentDevice : Backend := { Backend.quiet .inactive with
  deviceRead := fun _ _ _ _ => ⟨SmiErrorType.idxNotavail, none⟩
  deviceWrite := fun _ _ _ _ => SmiErrorType.idxNotavail }

/-- A device that answers a read with three octets. -/
def presentDevice : Backend := { Backend.quiet .running with
  deviceRead := fun _ _ _ _ => ⟨SmiErrorType.none, some (.fill 0x49, 3)⟩ }

/-- The read of the vendor name. -/
def vendorName : Frame := ⟨[Cmd.read, 0, 0, 16, 0, 10], by decide⟩

/-- The write of the application tag. -/
def applicationTag : Frame := ⟨[Cmd.write, 0, 0, 24, 0, 1, 0x41], by decide⟩

/-- The same without its value. -/
def shortTag : Frame := ⟨[Cmd.write, 0, 0, 24, 0, 1], by decide⟩

/-- A read and a write, as the clients send them, are a success to both; an error of two octets is
one to both. -/
theorem agrees_presentDevice :
    vendorName.octets = CClient.header Cmd.read 0 16 0 10 ∧
      Server.readReport presentDevice vendorName {} = .success [0x49, 0x49, 0x49] ∧
      (read 0 16 0 10).Agrees (.fill 0) presentDevice vendorName {} ∧
      applicationTag.octets = CClient.header Cmd.write 0 24 0 1 ++ [0x41] ∧
      (write 0 24 0 1 [0x41]).Agrees (.fill 0) presentDevice applicationTag {} ∧
      (write 0 24 0 1 [0x41]).Agrees (.fill 0) presentDevice shortTag {} := by
  have hread := agrees_iff (.fill 0) presentDevice vendorName {} (read 0 16 0 10) (by decide) rfl
  have hwrite (f : Frame) (hf : octetOf f.octets 0 = Cmd.write) :=
    agrees_iff (.fill 0) presentDevice f {} (write 0 24 0 1 [0x41]) (by decide) hf
  refine ⟨by decide, by decide +kernel, hread.mpr ⟨rfl, by decide, rfl⟩, by decide,
    (hwrite applicationTag rfl).mpr (.inr ⟨by decide, fun _ => rfl⟩),
    (hwrite shortTag rfl).mpr (.inr ⟨by decide, fun _ => rfl⟩)⟩

/-- Both errors of a device access are a success to the C client. -/
theorem not_agrees_absentDevice :
    ¬ (read 0 16 0 10).Agrees (.fill 0) absentDevice vendorName {} ∧
      ¬ (write 0 24 0 1 [0x41]).Agrees (.fill 0) absentDevice applicationTag {} := by
  constructor
  · intro h
    have hreport : Server.readReport absentDevice vendorName {} =
        .ioLinkError SmiErrorType.idxNotavail := by decide +kernel
    have hsuccess := h.succeeds.mp (by decide +kernel)
    rw [hreport] at hsuccess
    exact hsuccess
  · intro h
    have hreport : Server.writeReport absentDevice applicationTag =
        .ioLinkError SmiErrorType.idxNotavail := by decide +kernel
    have hsuccess := h.succeeds.mp (by decide +kernel)
    rw [hreport] at hsuccess
    exact hsuccess

end ClientCall

end IolHat
