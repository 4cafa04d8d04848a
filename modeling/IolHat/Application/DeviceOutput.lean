import IolHat.Application.Replies
import IolHat.ConfigurationManager.Machine
import IolHat.DataLink.Output

/-!
# The way of process data output

A `CMD_PD` frame leaves its output data in the command record of its port. The cyclic run of the
port hands them to `do_smi_pdout`, which makes an arg block of them; Process Data Exchange takes it
apart again and updates the output of the data link layer, from where the next master message takes
it.

Three lengths meet on this way and none is compared with another: `LenOut` of the client, the 32
octets of the arg block, which lives on the stack and is not initialised, and the length for which
the data link layer is configured. `unaltered_iff` says when the device gets what the client has
sent.
-/

namespace IolHat

open Octets

/-! ### Process Data Exchange -/

/-- `pd_state_t`. -/
inductive PdState
  | inactive | pdActive
  deriving DecidableEq, Repr, Inhabited

/-- `iolink_pde_port_t`, with what the layer uses of its port. -/
structure Pde where
  state : PdState := .inactive
  outputEnable : Bool := false
  portStatusInfo : PortStatusInfo := .deactivated
  dl : Dl := {}
  /-- What the application is told, newest last. -/
  answers : List SmiAnswer := []
  /-- What `write_do` is called with, newest last. -/
  digitalOutput : List Bool := []

/-- `arg_block_pdout_t`. -/
structure ArgBlockPdout where
  id : ArgBlockId
  oe : Octet
  len : Octet
  data : Buffer Octet pdMaxSize

/-- `sizeof (arg_block_pdout_head_t)`. -/
abbrev sizeofArgBlockPdoutHead : ℕ := 4

/-- `sizeof (arg_block_pdout_t)`. -/
abbrev sizeofArgBlockPdout : ℕ := sizeofArgBlockPdoutHead + pdMaxSize

namespace Pde

variable (p : Pde)

@[simps] def answer (a : SmiAnswer) : Pde := { p with answers := p.answers ++ [a] }

@[simps] def setDl (dl : Dl) : Pde := { p with dl := dl }

@[simps] def setOutputEnable (b : Bool) : Pde := { p with outputEnable := b }

@[simps] def writeDo (b : Bool) : Pde := { p with digitalOutput := p.digitalOutput ++ [b] }

/-- The first check of `pde_check_smi_req`: the arg block itself. -/
def blockError (exp ref : ArgBlockId) (argBlockLen : ℕ) (expExp expRef : ArgBlockId)
    (lenMin lenMax : ℕ) : SmiErrorType :=
  if expRef ≠ ref then SmiErrorType.argblockNotSupported
  else if narrow8 argBlockLen < lenMin ∨ lenMax < narrow8 argBlockLen then
    SmiErrorType.argblockLengthInvalid
  else if expExp ≠ exp then SmiErrorType.argblockInconsistent
  else SmiErrorType.none

/-- The port has neither process data nor a digital signal. -/
def NotInOperate : Prop :=
  p.state = .inactive ∧ p.portStatusInfo ≠ .di ∧ p.portStatusInfo ≠ .do_

instance : Decidable p.NotInOperate := inferInstanceAs (Decidable (_ ∧ _))

/-- `pde_check_smi_req`. The length arrives as a `uint8_t`. -/
def checkSmiReq (exp ref : ArgBlockId) (argBlockLen : ℕ) (expExp expRef : ArgBlockId)
    (lenMin lenMax : ℕ) : IolinkError × Pde :=
  let e := blockError exp ref argBlockLen expExp expRef lenMin lenMax
  if e ≠ SmiErrorType.none then (.parameterConflict, p.answer (.joberror exp ref e))
  else if p.NotInOperate then
    (.stateInvalid, p.answer (.joberror exp ref SmiErrorType.devNotInOperate))
  else (.none, p)

/-- `AL_SetOutput_req`. -/
def alSetOutputReq (data : List Octet) : IolinkError × Pde :=
  ((p.dl.pdOutputUpdateReq data).1, p.setDl (p.dl.pdOutputUpdateReq data).2)

/-- `AL_Control_req`. -/
def alControlReq (controlcode : ControlCode) : IolinkError × Pde :=
  ((p.dl.controlReq controlcode).1, p.setDl (p.dl.controlReq controlcode).2)

/-- `pde_SMI_PDOut_req`, for a port with process data. -/
def updateOutput (exp : ArgBlockId) (argBlock : ArgBlockPdout) : IolinkError × Pde :=
  let outputEnable : Bool := argBlock.oe &&& 1 ≠ 0
  let (error, p) := p.alSetOutputReq argBlock.data.cells
  if error ≠ .none then
    (error, p.answer (.joberror exp argBlock.id SmiErrorType.devNotAccessible))
  else if p.outputEnable ≠ outputEnable then
    let (error, p) := p.alControlReq (if outputEnable then .pdoutvalid else .pdoutinvalid)
    if error ≠ .none then
      (error, p.answer (.joberror exp argBlock.id SmiErrorType.devNotAccessible))
    else (.none, p.setOutputEnable outputEnable)
  else (.none, p)

/-- `pde_SMI_PDOut_req`. -/
def smiPdOutReq (exp : ArgBlockId) (argBlockLen : ℕ) (argBlock : ArgBlockPdout) :
    IolinkError × Pde :=
  let (error, p) := p.checkSmiReq exp argBlock.id argBlockLen ArgBlockId.voidBlock
    ArgBlockId.pdOut (sizeofArgBlockPdoutHead + 1) sizeofArgBlockPdout
  if error ≠ .none then (error, p)
  else
    let (error, p) :=
      if p.portStatusInfo = .do_ then (.none, p.writeDo (argBlock.data.get 0 &&& 1 ≠ 0))
      else p.updateOutput exp argBlock
    if error ≠ .none then (error, p) else (.none, p.answer (.voidblock argBlock.id))

end Pde

/-! ### The cyclic run -/

/-- The part of the cyclic run that hands over the output. -/
structure OutputRun where
  /-- Every octet has been written into the arg block. -/
  inside : Bool := true
  /-- The result of `SMI_PDOut_req`, if it has been called. -/
  returned : Option IolinkError := none
  pde : Pde

/-- `do_smi_pdout`, `stack` being what the arg block contains before it is filled. -/
def doSmiPdout (portnumber : ℕ) (stack : Buffer Octet pdMaxSize) (outputEnable : Bool) (len : Octet)
    (data : List Octet) (pde : Pde) : OutputRun :=
  let argBlock : ArgBlockPdout :=
    { id := ArgBlockId.pdOut, oe := if outputEnable then 1 else 0, len := len,
      data := stack.write 0 (data.take len.toNat) }
  let (error, pde) :=
    match portnumberToIolinkport portNumber portnumber with
    | .none =>
      pde.smiPdOutReq ArgBlockId.voidBlock (sizeofArgBlockPdoutHead + len.toNat) argBlock
    | error => (error, pde)
  { inside := Buffer.Fits pdMaxSize 0 len.toNat, returned := some error, pde := pde }

/-- `generic_run0` and `generic_run1`, up to the input. -/
def genericRunOutput (portnumber : ℕ) (cmd : IolCmd) (stack : Buffer Octet pdMaxSize) (pde : Pde) :
    OutputRun :=
  if cmd.port.toNat + 1 ≠ portnumber ∧ cmd.command ≠ Cmd.empty then { pde := pde }
  else if 0 < cmd.lenOut then
    doSmiPdout portnumber stack true cmd.lenOut cmd.dataOut.cells pde
  else { pde := pde }

/-! ### What the client asks for -/

/-- A `CMD_PD` frame with all its output data. -/
structure Frame.IsPd (f : Frame) : Prop where
  command : octetOf f.octets 0 = Cmd.pd
  port : octetOf f.octets 1 ≤ 1
  length : 4 + (octetOf f.octets 2).toNat ≤ f.octets.length

namespace Frame

/-- `LenOut`. -/
def lenOut (f : Frame) : ℕ := (octetOf f.octets 2).toNat

/-- The output data of a `CMD_PD` frame. -/
def output (f : Frame) : List Octet := (f.octets.drop 4).take f.lenOut

end Frame

/-- The first `n` octets of the client's data followed by zeros. -/
def wantedOutput (client : List Octet) (n : ℕ) : List Octet :=
  (client ++ List.replicate n 0).take n

/-- The configured output length of a port. -/
def Pde.outputLength (p : Pde) : ℕ := p.dl.messageHandler.pdTxlen

/-- The output has been refused. -/
def OutputRun.Rejected (r : OutputRun) : Prop := ∃ e, r.returned = some e ∧ e ≠ .none

/-- **Unaltered.** Nothing outside the arg block has been written, and the output has been refused
or is what the message after the device's next answer carries, whatever this answer is. -/
def OutputRun.Unaltered (r : OutputRun) (wanted : List Octet) : Prop :=
  r.inside = true ∧ (r.Rejected ∨
    ∀ octets, octets ≠ [] → (r.pde.dl.rxrdy octets).sentOutput = some wanted)

/-- The output octets are those wanted. A message that writes a parameter repeats the last output;
an output that is handed over takes with it what the stack contains behind the client's octets; and
without an output that is handed over the last one stays. -/
def OutputReady (f : Frame) (stack : Buffer Octet pdMaxSize) (p : Pde) : Prop :=
  let n := p.outputLength
  if p.dl.messageHandler.rwcmd = .writeparam then p.dl.outputOctets = wantedOutput f.output n
  else if 0 < f.lenOut ∧ p.portStatusInfo ≠ .do_ then
    stack.slice f.lenOut (n - f.lenOut) = List.replicate (n - f.lenOut) 0
  else p.dl.pdHandler.pdoutdata.slice 0 n = wantedOutput f.output n

/-- **When the output arrives**: it fits the arg block, and Process Data Exchange refuses it, or the
process data handler works with the configured length and the octets are the right ones. -/
def OutputCondition (f : Frame) (stack : Buffer Octet pdMaxSize) (p : Pde) : Prop :=
  f.lenOut ≤ pdMaxSize ∧ (0 < f.lenOut ∧ p.NotInOperate ∨
    p.dl.pdHandler.pdTxlen = p.outputLength ∧ OutputReady f stack p)

instance (f : Frame) (stack : Buffer Octet pdMaxSize) (p : Pde) :
    Decidable (OutputReady f stack p) :=
  inferInstanceAs (Decidable (ite _ _ _))

instance (f : Frame) (stack : Buffer Octet pdMaxSize) (p : Pde) :
    Decidable (OutputCondition f stack p) := inferInstanceAs (Decidable (_ ∧ (_ ∨ _)))

/-! ### The command record -/

/-- A `CMD_PD` frame leaves its output data, followed by zeros, in the record of its port. -/
theorem cmd_of_pd {b : Backend} {f : Frame} (hf : f.IsPd) (s : Server)
    (hrun : b.appPortState f.port = .running) :
    ((s.handle b f).cmd f.port).lenOut.toNat = f.lenOut ∧
      ((s.handle b f).cmd f.port).command = Cmd.pd ∧
      ((s.handle b f).cmd f.port).port.toNat = f.port.val ∧
      ((s.handle b f).cmd f.port).dataOut = (Buffer.fill 0).write 0 f.output := by
  have hlen := hf.length
  have hget : ∀ i < 4, (s.receive f).buffer.get i = octetOf f.octets i := fun i hi =>
    s.get_receive f (by omega)
  have hle : (s.receive f).buffer.get 1 ≤ 1 := by
    rw [hget 1 (by omega)]
    exact hf.port
  have hcmd : s.handle b f = (s.receive f).cmdPd b f.port := by
    have hpd : (s.receive f).buffer.get 0 = Cmd.pd := (hget 0 (by omega)).trans hf.command
    rw [Server.handle_of_port (by omega) hf.port, Server.command_pd hpd, Server.checked_eq hle,
      if_pos (decide_eq_true (by omega))]
  have hslice : (s.receive f).buffer.slice 4 f.lenOut = f.output := by
    -- the data are what is behind the header in the octets as far as they go
    have hall := s.slice_receive f hlen
    rw [Buffer.slice_add] at hall
    have hdrop := congrArg (List.drop 4) hall
    rwa [List.drop_left' (Buffer.length_slice _ (by decide)), List.drop_take,
      Nat.add_sub_cancel_left, Nat.zero_add] at hdrop
  have hrecord : (s.handle b f).cmd f.port =
      (s.receive f).copyOut ((s.receive f).clearedPdCmd f.port) := by
    have hsend : ∀ (s : Server) (n : ℕ), (s.sendBuffer n).cmd = s.cmd := by
      intro s n
      unfold Server.sendBuffer Server.sendLen
      split_ifs
      · rfl
      · rfl
    simp only [hcmd, Server.cmdPd, if_pos hrun, hsend]
    exact Function.update_self _ _ _
  rw [hrecord]
  refine ⟨congrArg UInt8.toNat (hget 2 (by omega)), rfl,
    (congrArg UInt8.toNat (hget 1 (by omega))).trans (toNat_eq_portOf hf.port), ?_⟩
  have hout : ((s.receive f).clearedPdCmd f.port).lenOut.toNat = f.lenOut :=
    congrArg UInt8.toNat (hget 2 (by omega))
  rw [Server.copyOut, hout, hslice]
  rfl

/-! ### The arg block -/

theorem length_output {f : Frame} (hf : f.IsPd) : f.output.length = f.lenOut := by
  have hlen := hf.length
  rw [Frame.output, List.length_take, List.length_drop, Frame.lenOut]
  omega

/-- The octets of the arg block are those wanted exactly if the stack was zero behind them. -/
theorem slice_argBlock_eq_iff (stack : Buffer Octet pdMaxSize) {client : List Octet}
    (h : client.length ≤ pdMaxSize) (n : ℕ) :
    (stack.write 0 client).slice 0 n = wantedOutput client n ↔
      stack.slice client.length (n - client.length) =
        List.replicate (n - client.length) 0 := by
  rw [stack.slice_zero_write_append h, wantedOutput, List.take_append, List.take_replicate,
    Nat.min_eq_left (Nat.sub_le n _), List.append_right_inj]

/-! ### The request -/

/-- The arg block of `do_smi_pdout`. -/
def outputBlock (stack : Buffer Octet pdMaxSize) (len : Octet) (client : List Octet) :
    ArgBlockPdout where
  id := ArgBlockId.pdOut
  oe := 1
  len := len
  data := stack.write 0 client

variable {f : Frame} {stack : Buffer Octet pdMaxSize} {p : Pde}

/-- Nothing is handed over without output data. -/
theorem genericRunOutput_of_zero {cmd : IolCmd} (portnumber : ℕ)
    (stack : Buffer Octet pdMaxSize) (p : Pde) (h : cmd.lenOut.toNat = 0) :
    genericRunOutput portnumber cmd stack p = { pde := p } := by
  have hnot : ¬ 0 < cmd.lenOut := fun hlt => absurd (UInt8.lt_iff_toNat_lt.mp hlt) (by simp [h])
  rw [genericRunOutput, if_neg hnot]
  split_ifs
  · rfl
  · rfl

/-- The output data are handed over. -/
theorem genericRunOutput_of_pos {b : Backend} (hf : f.IsPd) (s : Server)
    (hrun : b.appPortState f.port = .running) (stack : Buffer Octet pdMaxSize) (p : Pde)
    (h : 0 < f.lenOut) :
    let len := ((s.handle b f).cmd f.port).lenOut
    let r := p.smiPdOutReq ArgBlockId.voidBlock (sizeofArgBlockPdoutHead + f.lenOut)
      (outputBlock stack len f.output)
    genericRunOutput (f.port.val + 1) ((s.handle b f).cmd f.port) stack p =
      { inside := Buffer.Fits pdMaxSize 0 f.lenOut, returned := some r.1, pde := r.2 } := by
  intro len r
  obtain ⟨hlen, -, hport, hout⟩ := cmd_of_pd hf s hrun
  have hsame : ¬ (((s.handle b f).cmd f.port).port.toNat + 1 ≠ f.port.val + 1 ∧
      ((s.handle b f).cmd f.port).command ≠ Cmd.empty) := fun h => h.1 (congrArg (· + 1) hport)
  have hpos : 0 < ((s.handle b f).cmd f.port).lenOut :=
    UInt8.lt_iff_toNat_lt.mpr (by rw [hlen]; exact h)
  have hnum : portnumberToIolinkport portNumber (f.port.val + 1) = .none := by
    have hlt := f.port.isLt
    rw [portnumberToIolinkport, if_neg (by omega)]
  have hlt : f.output.length ≤ 256 := by
    rw [length_output hf]
    exact Nat.le_of_lt (octetOf f.octets 2).toNat_lt
  have hdata : ((s.handle b f).cmd f.port).dataOut.cells.take f.lenOut = f.output := by
    rw [hout, ← length_output hf]
    exact (Buffer.fill 0).slice_zero_write hlt
  rw [genericRunOutput, if_neg hsame, if_pos hpos]
  simp only [doSmiPdout, hnum, hlen, hdata]
  rfl

/-- An arg block that is too long is refused. -/
theorem blockError_of_fits (h : 0 < f.lenOut) (hfit : f.lenOut ≤ pdMaxSize) :
    Pde.blockError ArgBlockId.voidBlock ArgBlockId.pdOut (sizeofArgBlockPdoutHead + f.lenOut)
      ArgBlockId.voidBlock ArgBlockId.pdOut (sizeofArgBlockPdoutHead + 1) sizeofArgBlockPdout =
        SmiErrorType.none := by
  have hfit' : f.lenOut ≤ 32 := hfit
  have hnarrow : narrow8 (sizeofArgBlockPdoutHead + f.lenOut) = 4 + f.lenOut :=
    narrow8_of_lt (show 4 + f.lenOut < 256 by omega)
  have hlen : ¬ (4 + f.lenOut < sizeofArgBlockPdoutHead + 1 ∨
      sizeofArgBlockPdout < 4 + f.lenOut) := by
    rintro (hlt | hlt)
    · exact absurd (show 4 + f.lenOut < 5 from hlt) (by omega)
    · exact absurd (show 36 < 4 + f.lenOut from hlt) (by omega)
  rw [Pde.blockError, if_neg (by decide), hnarrow, if_neg hlen, if_neg (by decide)]

/-- What the message after the next answer carries. -/
theorem forall_sentOutput_iff {dl : Dl} (h : dl.Wired) (hx : dl.Exchanging) (wanted : List Octet) :
    (∀ octets, octets ≠ [] → (dl.rxrdy octets).sentOutput = some wanted) ↔
      dl.nextOutput = wanted := by
  constructor
  · intro hall
    have hone := hall [0] (List.cons_ne_nil _ _)
    rw [Dl.sentOutput_rxrdy h hx (List.cons_ne_nil _ _)] at hone
    exact Option.some.inj hone
  · rintro rfl octets ho
    exact Dl.sentOutput_rxrdy h hx ho

theorem length_wantedOutput (client : List Octet) (n : ℕ) : (wantedOutput client n).length = n := by
  rw [wantedOutput, List.length_take, List.length_append, List.length_replicate]
  omega

/-- The output of the data link layer is as long as the one wanted only if the process data handler
works with the configured length. -/
theorem nextOutput_eq_iff {dl : Dl} (h : dl.Wired) (client : List Octet) (n : ℕ) :
    dl.nextOutput = wantedOutput client n ↔ dl.pdHandler.pdTxlen = n ∧
      if dl.messageHandler.rwcmd = .writeparam then dl.outputOctets = wantedOutput client n
      else dl.pdHandler.pdoutdata.slice 0 n = wantedOutput client n := by
  have hlen : dl.nextOutput.length = dl.pdHandler.pdTxlen := by
    have hle := h.pdTxlen
    rw [Dl.nextOutput, Dl.outputOctets, h.odoutBuffer, Nat.add_sub_cancel_left]
    split_ifs
    · exact Buffer.length_slice _ (show 2 + _ ≤ 64 by omega)
    · exact Buffer.length_slice _ (show 0 + _ ≤ 32 by omega)
  constructor
  · intro heq
    have hn : dl.pdHandler.pdTxlen = n := by
      rw [← hlen, heq, length_wantedOutput]
    refine ⟨hn, ?_⟩
    rw [Dl.nextOutput, hn] at heq
    split_ifs at heq ⊢
    · exact heq
    · exact heq
  · rintro ⟨rfl, heq⟩
    rw [Dl.nextOutput]
    split_ifs at heq ⊢
    · exact heq
    · exact heq

/-- The data link layer exchanges process data as before, with these octets as output. -/
structure Handed (dl dl' : Dl) (octets : List Octet) : Prop where
  wired : dl'.Wired
  exchanging : dl'.Exchanging
  messageHandler : dl'.messageHandler = dl.messageHandler
  pdTxlen : dl'.pdHandler.pdTxlen = dl.pdHandler.pdTxlen
  outputOctets : dl'.outputOctets = dl.outputOctets
  front : dl'.pdHandler.pdoutdata.slice 0 dl.pdHandler.pdTxlen = octets

/-- Process Data Exchange updates the output of a port that exchanges process data. -/
theorem updateOutput_spec (hw : p.dl.Wired) (hx : p.dl.Exchanging)
    (stack : Buffer Octet pdMaxSize) (exp : ArgBlockId) (len : Octet) (client : List Octet) :
    let r := p.updateOutput exp (outputBlock stack len client)
    r.1 = .none ∧
      Handed p.dl r.2.dl ((stack.write 0 client).slice 0 p.dl.pdHandler.pdTxlen) := by
  intro r
  obtain ⟨hnone, data, fs, hupdate, hfront⟩ := Dl.pdOutputUpdateReq_of_active hw hx.pd
    (stack.write 0 client).length_cells
  have hset : (p.alSetOutputReq (outputBlock stack len client).data.cells) =
      (.none, p.setDl (p.dl.pdOutputUpdateReq (stack.write 0 client).cells).2) :=
    Prod.ext hnone rfl
  have hhanded : Handed p.dl (p.dl.pdOutputUpdateReq (stack.write 0 client).cells).2
      ((stack.write 0 client).slice 0 p.dl.pdHandler.pdTxlen) := by
    refine ⟨hw.pdOutputUpdateReq _, ?_, ?_, ?_, ?_, ?_⟩
    · rw [hupdate]
      exact ⟨hx.message, hx.mhcmd, hx.pd⟩
    · rw [hupdate]
    · rw [hupdate]
      rfl
    · rw [hupdate]
      rfl
    · rw [hupdate]
      exact hfront
  obtain ⟨dl, hdl⟩ : ∃ dl, dl = (p.dl.pdOutputUpdateReq (stack.write 0 client).cells).2 := ⟨_, rfl⟩
  rw [← hdl] at hset hhanded
  have hcontrol : Handed p.dl (dl.controlReq .pdoutvalid).2
      ((stack.write 0 client).slice 0 p.dl.pdHandler.pdTxlen) := by
    have hkept := (Dl.outputKept_closed dl).controlReq (.refl dl) .pdoutvalid
    have hmessage := (dl.controlReq_pdoutvalid).2
    obtain ⟨v, hv⟩ := hkept.pd
    refine ⟨hhanded.wired.of_kept hkept, hhanded.exchanging.of_kept hmessage hkept,
      hmessage.trans hhanded.messageHandler, ?_, hkept.octets.trans hhanded.outputOctets, ?_⟩
    · rw [hv]
      exact hhanded.pdTxlen
    · rw [hv]
      exact hhanded.front
  have hoe : ((outputBlock stack len client).oe &&& 1 ≠ 0) = True :=
    eq_true (show (1 : Octet) &&& 1 ≠ 0 by decide)
  simp only [r, Pde.updateOutput, hset, hoe]
  by_cases hen : p.outputEnable = true
  · simpa [hen] using hhanded
  · have hcode : (dl.controlReq .pdoutvalid).1 = .none := rfl
    simpa [hen, Pde.alControlReq, hcode] using hcontrol

/-- **The request.** An arg block that fits is refused if the port is not in operation; otherwise
its octets are the next output, unless the port has a digital output. -/
theorem smiPdOutReq_spec (hw : p.dl.Wired) (hx : p.dl.Exchanging)
    (stack : Buffer Octet pdMaxSize) (h : 0 < f.lenOut) (hfit : f.lenOut ≤ pdMaxSize)
    (len : Octet) :
    let r := p.smiPdOutReq ArgBlockId.voidBlock (sizeofArgBlockPdoutHead + f.lenOut)
      (outputBlock stack len f.output)
    if p.NotInOperate then r.1 = .stateInvalid
    else r.1 = .none ∧ Handed p.dl r.2.dl
      (if p.portStatusInfo = .do_ then p.dl.pdHandler.pdoutdata.slice 0 p.dl.pdHandler.pdTxlen
        else (stack.write 0 f.output).slice 0 p.dl.pdHandler.pdTxlen) := by
  intro r
  have hblock := blockError_of_fits h hfit
  have hid : (outputBlock stack len f.output).id = ArgBlockId.pdOut := rfl
  by_cases hop : p.NotInOperate
  · rw [if_pos hop]
    simp [r, Pde.smiPdOutReq, Pde.checkSmiReq, hid, hblock, hop]
  · rw [if_neg hop]
    have hcheck : p.checkSmiReq ArgBlockId.voidBlock ArgBlockId.pdOut
        (sizeofArgBlockPdoutHead + f.lenOut) ArgBlockId.voidBlock ArgBlockId.pdOut
        (sizeofArgBlockPdoutHead + 1) sizeofArgBlockPdout = (.none, p) := by
      simp [Pde.checkSmiReq, hblock, hop]
    by_cases hdo : p.portStatusInfo = .do_
    · simp only [r, Pde.smiPdOutReq, hid, hcheck, hdo, if_true]
      exact ⟨rfl, hw, hx, rfl, rfl, rfl, rfl⟩
    · obtain ⟨hnone, hhanded⟩ := updateOutput_spec hw hx stack ArgBlockId.voidBlock len
        f.output
      simp only [r, Pde.smiPdOutReq, hid, hcheck, hdo, if_false]
      simpa [hnone] using hhanded

/-- The output of a port to which octets have been handed over. -/
theorem nextOutput_handed_iff {dl dl' : Dl} {octets : List Octet} (h : Handed dl dl' octets)
    (client : List Octet) (n : ℕ) :
    dl'.nextOutput = wantedOutput client n ↔ dl.pdHandler.pdTxlen = n ∧
      if dl.messageHandler.rwcmd = .writeparam then dl.outputOctets = wantedOutput client n
      else octets = wantedOutput client n := by
  rw [nextOutput_eq_iff h.wired, h.pdTxlen, h.messageHandler, h.outputOctets]
  refine and_congr_right fun hn => ?_
  rw [← hn, h.front]

/-- **Process data output is unaltered** exactly under the condition, for every frame of a port
whose data link layer has come to exchange process data in any way. -/
theorem unaltered_iff {b : Backend} (hf : f.IsPd) (s : Server)
    (hrun : b.appPortState f.port = .running) (stack : Buffer Octet pdMaxSize)
    (hreach : Runs.Reaches Dl.linkStep (fun _ i => i.Regular) {} p.dl) (hx : p.dl.Exchanging) :
    (genericRunOutput (f.port.val + 1) ((s.handle b f).cmd f.port) stack p).Unaltered
        (wantedOutput f.output p.outputLength) ↔ OutputCondition f stack p := by
  have hw : p.dl.Wired := Dl.wired_of_reaches (.reset {}) hreach
  rcases Nat.eq_zero_or_pos f.lenOut with hzero | hpos
  · have hcmd : ((s.handle b f).cmd f.port).lenOut.toNat = 0 := by
      rw [(cmd_of_pd hf s hrun).1, hzero]
    rw [genericRunOutput_of_zero _ _ _ hcmd]
    have hnext := forall_sentOutput_iff hw hx (wantedOutput f.output p.outputLength)
    simp [OutputRun.Unaltered, OutputRun.Rejected, hnext, nextOutput_eq_iff hw, OutputCondition,
      OutputReady, hzero]
  · rw [genericRunOutput_of_pos hf s hrun stack p hpos]
    by_cases hfit : f.lenOut ≤ pdMaxSize
    · have hspec := smiPdOutReq_spec hw hx stack hpos hfit
        ((s.handle b f).cmd f.port).lenOut
      have hinside : Buffer.Fits pdMaxSize 0 f.lenOut := by rwa [Buffer.Fits, Nat.zero_add]
      rw [OutputCondition, and_iff_right hfit]
      by_cases hop : p.NotInOperate
      · simp only [if_pos hop] at hspec
        refine iff_of_true ⟨decide_eq_true hinside, .inl ⟨_, rfl, ?_⟩⟩ (.inl ⟨hpos, hop⟩)
        rw [hspec]
        decide
      · simp only [if_neg hop] at hspec
        obtain ⟨hnone, hhanded⟩ := hspec
        have hrejected : ¬ OutputRun.Rejected
            { inside := Buffer.Fits pdMaxSize 0 f.lenOut
              returned := some (p.smiPdOutReq ArgBlockId.voidBlock
                (sizeofArgBlockPdoutHead + f.lenOut)
                (outputBlock stack ((s.handle b f).cmd f.port).lenOut f.output)).1
              pde := (p.smiPdOutReq ArgBlockId.voidBlock (sizeofArgBlockPdoutHead + f.lenOut)
                (outputBlock stack ((s.handle b f).cmd f.port).lenOut f.output)).2 } := by
          rintro ⟨e, he, hne⟩
          exact hne ((Option.some.inj he).symm.trans hnone)
        rw [OutputRun.Unaltered, and_iff_right (decide_eq_true hinside), or_iff_right hrejected,
          or_iff_right (fun h => hop h.2), forall_sentOutput_iff hhanded.wired hhanded.exchanging,
          nextOutput_handed_iff hhanded]
        refine and_congr_right fun hn => ?_
        have hblock := slice_argBlock_eq_iff stack ((length_output hf).symm ▸ hfit) p.outputLength
        rw [length_output hf] at hblock
        rw [OutputReady, hn]
        by_cases hwrite : p.dl.messageHandler.rwcmd = .writeparam
        · rw [if_pos hwrite, if_pos hwrite]
        · rw [if_neg hwrite, if_neg hwrite]
          by_cases hdo : p.portStatusInfo = .do_
          · rw [if_pos hdo, if_neg (fun h => h.2 hdo)]
          · rw [if_neg hdo, if_pos ⟨hpos, hdo⟩]
            exact hblock
    · have hinside : ¬ Buffer.Fits pdMaxSize 0 f.lenOut := by rwa [Buffer.Fits, Nat.zero_add]
      refine iff_of_false (fun h => ?_) (fun h => hfit h.1)
      exact hinside (of_decide_eq_true h.1)

section Instances

/-- A data link layer comes to exchange two octets of output and one octet of on-request data. -/
def twoOctetsOfOutput : List LinkInput :=
  [.dl (.surroundings { initSdci := true, baudrate := .com2 }),
    .dl (.setMode .startup ⟨0, .type0, 0, 0, 1⟩), .dl .mdh, .dl .wurq,
    .dl (.setMode .operate ⟨0, .type22, 0, 2, 1⟩), .dl .mdh, .dl .timeout]

/-- The port, with Process Data Exchange started. -/
def runningPort : Pde where
  state := .pdActive
  portStatusInfo := .op
  dl := Runs.run Dl.linkStep {} twoOctetsOfOutput

theorem reaches_runningPort :
    Runs.Reaches Dl.linkStep (fun _ i => i.Regular) {} runningPort.dl :=
  Runs.reaches_run (by decide +kernel)

theorem exchanging_runningPort : runningPort.dl.Exchanging := by decide +kernel

/-- `CMD_PD` with one octet of output. -/
def oneOctet : Frame := ⟨[Cmd.pd, 0, 1, 0, 0xAA], by decide⟩

/-- `CMD_PD` with two octets of output. -/
def twoOctets : Frame := ⟨[Cmd.pd, 0, 2, 0, 0xAA, 0xBB], by decide⟩

theorem isPd_oneOctet : oneOctet.IsPd := ⟨rfl, by decide, by decide⟩

theorem isPd_twoOctets : twoOctets.IsPd := ⟨rfl, by decide, by decide⟩

/-- **A client that sends fewer octets than the device has** sends the stack's octets as well. -/
theorem stack_is_sent : ∃ (b : Backend) (f : Frame) (s : Server) (stack : Buffer Octet pdMaxSize)
    (p : Pde), f.IsPd ∧ b.appPortState f.port = .running ∧
      Runs.Reaches Dl.linkStep (fun _ i => i.Regular) {} p.dl ∧ p.dl.Exchanging ∧
      ¬ (genericRunOutput (f.port.val + 1) ((s.handle b f).cmd f.port) stack p).Unaltered
        (wantedOutput f.output p.outputLength) := by
  refine ⟨.quiet .running, oneOctet, {}, .fill 0x55, runningPort, isPd_oneOctet, rfl,
    reaches_runningPort, exchanging_runningPort, ?_⟩
  rintro ⟨-, ⟨e, hreturned, hne⟩ | hsent⟩
  · have hnone : (genericRunOutput 1 ((Server.handle (.quiet .running) oneOctet {}).cmd 0)
        (.fill 0x55) runningPort).returned = some .none := by decide +kernel
    exact hne (Option.some.inj (hreturned.symm.trans hnone))
  · have hstack : ((genericRunOutput 1 ((Server.handle (.quiet .running) oneOctet {}).cmd 0)
        (.fill 0x55) runningPort).pde.dl.rxrdy [0]).sentOutput = some [0xAA, 0x55] := by
      decide +kernel
    have hwanted : wantedOutput oneOctet.output runningPort.outputLength = [0xAA, 0] := by
      decide +kernel
    have heq := (hsent [0] (List.cons_ne_nil _ _)).symm.trans hstack
    rw [hwanted] at heq
    exact absurd heq (by decide)

/-- Two octets arrive, whatever the stack contains. -/
theorem unaltered_twoOctets :
    (genericRunOutput 1 ((Server.handle (.quiet .running) twoOctets {}).cmd 0) (.fill 0x55)
      runningPort).Unaltered (wantedOutput twoOctets.output 2) :=
  (unaltered_iff (b := .quiet .running) isPd_twoOctets {} rfl (.fill 0x55) reaches_runningPort
    exchanging_runningPort).mpr (by decide +kernel)

end Instances

end IolHat
