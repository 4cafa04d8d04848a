import IolHat.DataLink.Isdu

/-!
# The process data handler

The part of `iolink_dl.c` that carries cyclic process data: `PD_req`, which copies output octets
into the next master message, the process data handler `pdHSm`, and the two services by which the
application layer reads and updates the output octets.

`setMseqChange` belongs here as well: when the M-sequence changes, it sets the lengths the handler
works with and the place of the on-request data behind the output octets.
-/

namespace IolHat

namespace Dl

/-- `interleave_reset_od_sizes`. -/
def interleaveResetOdSizes (dl : Dl) : Dl := dl.modOd ({ · with odRxlen := 0, odTxlen := 0 })

/-- `set_mseq_change`. -/
def setMseqChange (dl : Dl) : Dl :=
  let mh := dl.messageHandler
  let dl :=
    if mh.interleave ≠ .none then
      let dl := if mh.pdTxlen > 0 then dl.modPd ({ · with pdTxlen := 2 }) else dl
      let dl := if mh.pdRxlen > 0 then dl.modPd ({ · with pdRxlen := 2 }) else dl
      dl.modOd ({ · with odoutBuffer := dl.pdHandler.pdoutBuffer })
    else
      let dl := dl.modPd ({ · with pdTxlen := mh.pdTxlen, pdRxlen := mh.pdRxlen })
      dl.modOd ({ · with odoutBuffer := dl.pdHandler.pdoutBuffer + mh.pdTxlen })
  let dl :=
    if mh.interleave ≠ .none ∧ dl.pdHandler.pdRxlen = 0 then
      -- there is no input to begin with
      dl.modPd ({ · with state := .pdoutinterleave3 })
    else dl
  dl.writeTx 0 (List.replicate rxtxBufferSize 0)

/-- `PD_req`; `none` is the null pointer. -/
def pdReq (dl : Dl) (pdinlength : ℕ) (pdout : Option OctetPtr) (pdoutaddress pdoutlength : ℕ) :
    IolinkError × Dl :=
  if pdinlength > 32 then (.pdinlength, dl)
  else if pdoutlength > 32 then (.pdoutlength, dl)
  else match pdout with
  | none => (.none, dl)
  | some p =>
    let source := p.reach.drop pdoutaddress
    let dl := dl.access p.array (pdoutlength ≤ source.length)
    let dl := dl.access .txbuffer (dl.pdHandler.pdoutBuffer + pdoutlength ≤ rxtxBufferSize)
    (.none, dl.writeTx dl.pdHandler.pdoutBuffer (source.take pdoutlength))

/-- `PD_req` writes the message and reads the octets it is handed; nothing else of the layer
changes. -/
theorem pdReq_frame (dl : Dl) (pdinlength : ℕ) (pdout : Option OctetPtr) (addr len : ℕ) :
    ∃ tx fs, (dl.pdReq pdinlength pdout addr len).2 = { dl with txbuffer := tx, faults := fs } := by
  unfold pdReq
  split_ifs
  · exact ⟨_, _, rfl⟩
  · exact ⟨_, _, rfl⟩
  · cases pdout with
    | none => exact ⟨_, _, rfl⟩
    | some p => exact ⟨_, _, rfl⟩

/-- A pointer to the first octet of `pdoutdata`. -/
def pdoutPtr (dl : Dl) : OctetPtr := ⟨.pdoutdata, dl.pdHandler.pdoutdata.suffix 0⟩

/-! ### The states -/

/-- `iolink_dl_pd_h_sm_inactive0`. -/
def pdHSmInactive0 (dl : Dl) : Dl :=
  match dl.pdHandler.phcmd with
  | .single => dl.modPd ({ · with state := .pdsingle1 })
  | .interleave => dl.modPd ({ · with state := .pdininterleave2 })
  | _ =>
    if dl.pdHandler.trigger ≠ .none then
      ((dl.modPd ({ · with trigger := .none })).pdReq 0 none 0 0).2
    else dl

/-- `iolink_dl_pd_h_sm_pd_single1`. -/
def pdHSmPdSingle1 (dl : Dl) : Dl :=
  match dl.pdHandler.trigger with
  | .masterMessage =>
    let dl := dl.modPd ({ · with trigger := .none })
    (dl.pdReq dl.pdHandler.pdRxlen (some dl.pdoutPtr) 0 dl.pdHandler.pdTxlen).2
  | .deviceMessage =>
    let dl := dl.modPd ({ · with trigger := .none })
    let off := dl.odHandler.odRxlen
    let len := dl.pdHandler.pdRxlen
    let dl := dl.access .rxbuffer (off + len ≤ rxtxBufferSize)
    dl.emit (.pdInputTransportInd (.rxbuffer off len) (dl.rxbuffer.slice off len))
  | .none =>
    if dl.pdHandler.phcmd = .inactive then dl.modPd ({ · with state := .inactive0 }) else dl

/-- `iolink_dl_pd_h_sm_pd_in_interleave2`, two octets of input having been received. -/
def pdInInterleaveReceived (dl : Dl) : Dl :=
  let addr := dl.pdHandler.pdAddress
  let dl := dl.access .pdindata (addr + 2 ≤ pdMaxSize)
  let octets := dl.rxbuffer.slice 0 2
  let dl := dl.modPd fun h =>
    { h with pdindata := h.pdindata.write addr octets, pdAddress := narrow8 (addr + 2) }
  if dl.pdHandler.pdAddress ≥ dl.pdHandler.pdRxlen then
    let dl := dl.modPd ({ · with pdAddress := 0 })
    let dl := dl.emit (.pdInputTransportInd (.pdindata dl.pdHandler.pdRxlen)
      (dl.pdHandler.pdindata.slice 0 dl.pdHandler.pdRxlen))
    if dl.pdHandler.pdTxlen > 0 then dl.modPd ({ · with state := .pdoutinterleave3 }) else dl
  else dl

/-- `iolink_dl_pd_h_sm_pd_in_interleave2`. -/
def pdHSmPdInInterleave2 (dl : Dl) : Dl :=
  if dl.pdHandler.phcmd = .inactive then dl.modPd ({ · with state := .inactive0 })
  else match dl.pdHandler.trigger with
  | .masterMessage =>
    let dl := dl.modPd ({ · with trigger := .none })
    (dl.odReq .read .process dl.pdHandler.pdAddress 0 .null).2.interleaveResetOdSizes
  | .deviceMessage => dl.pdInInterleaveReceived
  | .none => dl

/-- `iolink_dl_pd_h_sm_pd_out_interleave3`. -/
def pdHSmPdOutInterleave3 (dl : Dl) : Dl :=
  if dl.pdHandler.phcmd = .inactive then dl.modPd ({ · with state := .inactive0 })
  else match dl.pdHandler.trigger with
  | .masterMessage =>
    let dl := dl.modPd ({ · with trigger := .none })
    let addr := dl.pdHandler.pdAddress
    let dl := (dl.pdReq 0 (some dl.pdoutPtr) addr 2).2
    let dl := (dl.odReq .write .process addr 0 .null).2.interleaveResetOdSizes
    dl.modPd ({ · with pdAddress := narrow8 (addr + 2) })
  | .deviceMessage =>
    let dl := dl.modPd ({ · with trigger := .none })
    if dl.pdHandler.pdAddress ≥ dl.pdHandler.pdRxlen then
      let dl := dl.modPd ({ · with pdAddress := 0 })
      if dl.pdHandler.pdRxlen > 0 then dl.modPd ({ · with state := .pdininterleave2 }) else dl
    else dl
  | .none => dl

/-- `iolink_dl_pd_h_sm`. -/
def pdHSm (dl : Dl) : Dl :=
  match dl.pdHandler.state with
  | .inactive0 => dl.pdHSmInactive0
  | .pdsingle1 => dl.pdHSmPdSingle1
  | .pdininterleave2 => dl.pdHSmPdInInterleave2
  | .pdoutinterleave3 => dl.pdHSmPdOutInterleave3

/-! ### The services of the application layer -/

/-- `DL_PDOutputGet_req`. -/
def pdOutputGetReq (dl : Dl) : List Octet :=
  dl.pdHandler.pdoutdata.slice 0 dl.pdHandler.pdTxlen

/-- `DL_PDOutputUpdate_req`, `outputdata` being the octets the caller's pointer reaches. -/
def pdOutputUpdateReq (dl : Dl) (outputdata : List Octet) : IolinkError × Dl :=
  if dl.pdHandler.state = .inactive0 then (.conditionsNotCorrect, dl)
  else
    let len := dl.pdHandler.pdTxlen
    let dl := dl.access .pdoutdata (len ≤ pdMaxSize)
    let dl := dl.modPd fun h => { h with pdoutdata := h.pdoutdata.write 0 (outputdata.take len) }
    if len % 2 = 1 then
      let dl := dl.access .pdoutdata (len + 1 ≤ pdMaxSize)
      (.none, dl.modPd fun h => { h with pdoutdata := h.pdoutdata.write len [0] })
    else (.none, dl)

end Dl

end IolHat
